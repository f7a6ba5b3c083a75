import Mathlib.Tactic
import Crontab.Occurrence
import Crontab.Proofs.Answer

/-!
# What a walk looks at

`Fields.walk` answers with a fault or with the minutes it has found, and it counts down the minutes
that it passes over.  For reasoning it is taken apart here into two things that know nothing of
faults and of the number of runs that are wanted:

* `Fields.stride`, how far the walk goes on from a minute: one minute while the month, the hour and
  the day are selected, otherwise to the end of the hour that the clocks show;
* `Fields.visited`, the minutes that strides lead to from the start of a window.

The *hits* are the visited minutes in which the fields fire, and `eq_take_hits_of_walk` says that a
walk which answers has found the first of them, as many as were wanted.  `walk_eq_ok_of_hits` and
`walk_eq_ok_of_onLine` say when a walk answers.  Whatever is claimed of a walk follows from facts
about `visited`, and all of these are shown by one induction, `stride_induction`.

A minute is named by its number on the line of UTC.  Nothing is assumed about the offsets of the
zone.
-/

namespace Crontab

/-! ## Ascending lists -/

section Ascending

variable {l : List Int}

lemma filter_lt_eq_nil_of_le {a b : Int} (h : (a :: l).Pairwise (· < ·)) (hab : b ≤ a) :
    (a :: l).filter (· < b) = [] := by
  rw [List.filter_eq_nil_iff]
  intro c hc
  have hac : a ≤ c := by
    rcases List.mem_cons.1 hc with rfl | hc
    · exact le_rfl
    · exact ((List.pairwise_cons.1 h).1 c hc).le
  simp only [decide_eq_true_eq]
  omega

/-- The members of an ascending list below a bound are its first ones. -/
lemma filter_lt_prefix (h : l.Pairwise (· < ·)) (b : Int) : l.filter (· < b) <+: l := by
  induction l with
  | nil => simp
  | cons a l ih =>
    by_cases hab : a < b
    · rw [List.filter_cons_of_pos (by simpa using hab)]
      exact (List.prefix_cons_inj a).2 (ih (List.pairwise_cons.1 h).2)
    · rw [filter_lt_eq_nil_of_le h (not_lt.1 hab)]
      exact List.nil_prefix

lemma filter_lt_take (h : l.Pairwise (· < ·)) (n : Nat) (b : Int) :
    (l.take n).filter (· < b) = (l.filter (· < b)).take n := by
  induction l generalizing n with
  | nil => simp
  | cons a l ih =>
    cases n with
    | zero => simp
    | succ n =>
      by_cases hab : a < b
      · simp [hab, ih (List.pairwise_cons.1 h).2]
      · have htake : (a :: l.take n).Pairwise (· < ·) := h.sublist (List.take_sublist (n + 1) (a :: l))
        rw [List.take_succ_cons, filter_lt_eq_nil_of_le htake (not_lt.1 hab),
          filter_lt_eq_nil_of_le h (not_lt.1 hab), List.take_nil]

/-- A member of an ascending list is one of its first `n` members or comes after `n` others. -/
lemma mem_take_or_le_length_filter (h : l.Pairwise (· < ·)) {x : Int} (hx : x ∈ l) (n : Nat) :
    x ∈ l.take n ∨ n ≤ (l.filter (· < x)).length := by
  rw [← List.take_append_drop n l, List.mem_append] at hx
  refine hx.imp_right fun hdrop => ?_
  have hn : n ≤ l.length := by
    by_contra hlong
    rw [List.drop_eq_nil_of_le (by omega)] at hdrop
    simp at hdrop
  rw [← List.take_append_drop n l] at h
  have hbelow : (l.take n).filter (· < x) = l.take n :=
    List.filter_eq_self.2 fun u hu => by
      simpa using (List.pairwise_append.1 h).2.2 u hu x hdrop
  calc n = ((l.take n).filter (· < x)).length := by rw [hbelow, List.length_take, min_eq_left hn]
    _ ≤ (l.filter (· < x)).length := ((List.take_sublist n l).filter _).length_le

end Ascending

/-! ## Readings and strides -/

namespace Zone

/-- What the clocks of the zone show at the start of a minute. -/
def shown (z : Zone) (k : Int) : Civil := Civil.ofWall (z.momentAt (k * oneMinute)).wall

lemma shown_minute_lt (z : Zone) (k : Int) : (z.shown k).minute < 60 := Civil.minute_ofWall_lt _

lemma tell_eq_ok_iff {z : Zone} {t : Int} {m : Moment} :
    z.tell t = .ok m ↔ (∃ w, onLine (z.momentAt t).wall = .ok w) ∧ m = z.momentAt t := by
  simp only [tell, bind_eq_ok_iff, pure_eq_ok_iff]
  constructor
  · rintro ⟨w, hw, rfl⟩
    exact ⟨⟨w, hw⟩, rfl⟩
  · rintro ⟨⟨w, hw⟩, rfl⟩
    exact ⟨w, hw, rfl⟩

end Zone

namespace Fields

variable {f : Fields} {z : Zone}

/-- Whether the fields fire in a minute, by the clocks of a zone. -/
def firesIn (f : Fields) (z : Zone) (k : Int) : Bool := f.fires (z.shown k)

/-- How far a walk goes on from a minute. -/
def stride (f : Fields) (z : Zone) (k : Int) : Nat :=
  if f.firesInHour (z.shown k) then 1 else 60 - (z.shown k).minute

lemma stride_pos (f : Fields) (z : Zone) (k : Int) : 0 < f.stride z k := by
  have := z.shown_minute_lt k
  unfold stride
  split <;> omega

lemma stride_le (f : Fields) (z : Zone) (k : Int) : f.stride z k ≤ 60 := by
  unfold stride
  split <;> omega

/-- The walk passes over nothing where the fields fire. -/
lemma stride_of_firesIn {k : Int} (h : f.firesIn z k = true) : f.stride z k = 1 := by
  simp only [firesIn, fires, Bool.and_eq_true] at h
  simp [stride, h.2]

/-- Induction along a walk over a window of `left` minutes: what holds of the rest of the window
behind a stride holds of the window. -/
theorem stride_induction (f : Fields) (z : Zone) {motive : Nat → Int → Prop}
    (zero : ∀ k, motive 0 k)
    (succ : ∀ left k, motive (left + 1 - f.stride z k) (k + f.stride z k) → motive (left + 1) k)
    (left : Nat) (k : Int) : motive left k := by
  induction left using Nat.strong_induction_on generalizing k with
  | _ left ih =>
    cases left with
    | zero => exact zero k
    | succ left =>
      have hpos := f.stride_pos z k
      exact succ left k (ih _ (by omega) _)

/-! ## Visited minutes -/

/-- The minutes that a walk looks at among the next `left` ones, when it starts by passing over
`skip` minutes. -/
def visited (f : Fields) (z : Zone) : (left skip : Nat) → (k : Int) → List Int
  | 0, _, _ => []
  | left + 1, skip + 1, k => visited f z left skip (k + 1)
  | left + 1, 0, k => k :: visited f z left (f.stride z k - 1) (k + 1)

@[simp] lemma visited_zero (f : Fields) (z : Zone) (skip : Nat) (k : Int) :
    f.visited z 0 skip k = [] := by
  simp [visited]

lemma visited_skip (f : Fields) (z : Zone) (left skip : Nat) (k : Int) :
    f.visited z left skip k = f.visited z (left - skip) 0 (k + skip) := by
  induction left generalizing skip k with
  | zero => simp
  | succ left ih =>
    cases skip with
    | zero => simp
    | succ skip =>
      rw [visited, ih, Nat.add_sub_add_right]
      congr 1
      push_cast
      ring

/-- From a minute the walk comes to the one a stride further on. -/
lemma visited_succ (f : Fields) (z : Zone) (left : Nat) (k : Int) :
    f.visited z (left + 1) 0 k =
      k :: f.visited z (left + 1 - f.stride z k) 0 (k + f.stride z k) := by
  have hpos := f.stride_pos z k
  rw [visited, visited_skip]
  congr 2 <;> omega

/-- Only minutes of the window are visited. -/
lemma mem_window_of_mem_visited {left : Nat} {k v : Int} (h : v ∈ f.visited z left 0 k) :
    k ≤ v ∧ v < k + left := by
  revert h
  induction left, k using f.stride_induction z with
  | zero k => simp
  | succ left k ih =>
    rw [visited_succ, List.mem_cons]
    rintro (rfl | h)
    · omega
    · have hpos := f.stride_pos z k
      have := ih h
      omega

/-- A minute that is visited later lies at least a stride further on. -/
lemma pairwise_visited (f : Fields) (z : Zone) (left : Nat) (k : Int) :
    (f.visited z left 0 k).Pairwise fun u v => u + f.stride z u ≤ v := by
  induction left, k using f.stride_induction z with
  | zero k => simp
  | succ left k ih =>
    rw [visited_succ]
    exact List.pairwise_cons.2 ⟨fun v hv => (mem_window_of_mem_visited hv).1, ih⟩

lemma sorted_visited (f : Fields) (z : Zone) (left : Nat) (k : Int) :
    (f.visited z left 0 k).Pairwise (· < ·) :=
  (f.pairwise_visited z left k).imp fun {u v} h => by
    have := f.stride_pos z u
    omega

/-- What a stride passes over is not visited. -/
lemma notMem_visited_of_passed {left : Nat} {k v t : Int} (hv : v ∈ f.visited z left 0 k)
    (hvt : v < t) (ht : t < v + f.stride z v) : t ∉ f.visited z left 0 k := by
  intro hmem
  obtain ⟨i, hi, rfl⟩ := List.mem_iff_getElem.1 hv
  obtain ⟨j, hj, rfl⟩ := List.mem_iff_getElem.1 hmem
  have hsorted := List.pairwise_iff_getElem.1 (f.sorted_visited z left k)
  have hapart := List.pairwise_iff_getElem.1 (f.pairwise_visited z left k)
  rcases Nat.lt_trichotomy i j with hij | rfl | hji
  · have := hapart i j hi hj hij
    omega
  · omega
  · have := hsorted j i hj hi hji
    omega

/-- Every minute of the window is visited or passed over by the stride of a visited one. -/
lemma exists_visited_le {left : Nat} {k t : Int} (hk : k ≤ t) (ht : t < k + left) :
    ∃ v ∈ f.visited z left 0 k, v ≤ t ∧ t < v + f.stride z v := by
  revert hk ht
  induction left, k using f.stride_induction z with
  | zero k => intro hk ht; omega
  | succ left k ih =>
    intro hk ht
    rw [visited_succ]
    by_cases hlt : t < k + f.stride z k
    · exact ⟨k, List.mem_cons_self, hk, hlt⟩
    · obtain ⟨v, hv, hvt⟩ := ih (by omega) (by omega)
      exact ⟨v, List.mem_cons_of_mem _ hv, hvt⟩

/-- A longer window only adds visited minutes at the end: those that do not lie in the shorter. -/
lemma visited_eq_filter_lt (f : Fields) (z : Zone) {left more : Nat} (h : left ≤ more) (k : Int) :
    f.visited z left 0 k = (f.visited z more 0 k).filter (· < k + left) := by
  revert h
  induction more, k using f.stride_induction z generalizing left with
  | zero k =>
    intro h
    obtain rfl : left = 0 := by omega
    simp
  | succ more k ih =>
    intro h
    cases left with
    | zero =>
      have hsorted := f.sorted_visited z (more + 1) k
      rw [visited_succ] at hsorted ⊢
      rw [visited_zero, filter_lt_eq_nil_of_le hsorted (by simp)]
    | succ left =>
      rw [visited_succ, visited_succ, List.filter_cons_of_pos (by simp), ih (by omega)]
      -- the two bounds differ where the stride leaves the shorter window
      congr 1
      refine List.filter_congr fun v hv => ?_
      have := (mem_window_of_mem_visited hv).1
      simp only [decide_eq_decide]
      omega

/-- Behind a visited minute the walk goes on as one that starts there. -/
lemma visited_split {left : Nat} {k v : Int} (h : v ∈ f.visited z left 0 k) :
    f.visited z left 0 k =
      (f.visited z left 0 k).filter (· < v) ++ f.visited z (left - (v - k).toNat) 0 v := by
  revert h
  induction left, k using f.stride_induction z with
  | zero k => simp
  | succ left k ih =>
    have hpos := f.stride_pos z k
    have hsorted := f.sorted_visited z (left + 1) k
    rw [visited_succ] at hsorted
    rw [visited_succ, List.mem_cons]
    rintro (rfl | h)
    · rw [filter_lt_eq_nil_of_le hsorted le_rfl, ← visited_succ]
      simp
    · have hv := mem_window_of_mem_visited h
      rw [List.filter_cons_of_pos (by simp; omega), List.cons_append]
      congr 1
      -- the same walk goes on from `v`, whether it is counted from here or from behind the stride
      rw [show left + 1 - (v - k).toNat =
        left + 1 - f.stride z k - (v - (k + f.stride z k)).toNat by omega]
      exact ih h

/-! ## Hits -/

/-- The visited minutes of a window in which the fields fire. -/
def hits (f : Fields) (z : Zone) (left : Nat) (k : Int) : List Int :=
  (f.visited z left 0 k).filter (f.firesIn z)

@[simp] lemma hits_zero (f : Fields) (z : Zone) (k : Int) : f.hits z 0 k = [] := by
  simp [hits]

lemma hits_succ (f : Fields) (z : Zone) (left : Nat) (k : Int) :
    f.hits z (left + 1) k =
      if f.firesIn z k then k :: f.hits z (left + 1 - f.stride z k) (k + f.stride z k)
      else f.hits z (left + 1 - f.stride z k) (k + f.stride z k) := by
  rw [hits, visited_succ, List.filter_cons]
  rfl

lemma mem_hits {left : Nat} {k v : Int} :
    v ∈ f.hits z left k ↔ v ∈ f.visited z left 0 k ∧ f.firesIn z v = true :=
  List.mem_filter

lemma mem_window_of_mem_hits {left : Nat} {k v : Int} (h : v ∈ f.hits z left k) :
    k ≤ v ∧ v < k + left :=
  mem_window_of_mem_visited (mem_hits.1 h).1

lemma sorted_hits (f : Fields) (z : Zone) (left : Nat) (k : Int) :
    (f.hits z left k).Pairwise (· < ·) :=
  (f.sorted_visited z left k).filter _

lemma hits_eq_filter_lt (f : Fields) (z : Zone) {left more : Nat} (h : left ≤ more) (k : Int) :
    f.hits z left k = (f.hits z more k).filter (· < k + left) := by
  rw [hits, visited_eq_filter_lt f z h, List.filter_comm]
  rfl

lemma hits_prefix (f : Fields) (z : Zone) {left more : Nat} (h : left ≤ more) (k : Int) :
    f.hits z left k <+: f.hits z more k := by
  rw [f.hits_eq_filter_lt z h]
  exact filter_lt_prefix (f.sorted_hits z more k) _

/-- A hit splits the hits of a window: those before it, itself, and the hits of a walk that starts
in the minute after it. -/
lemma hits_split {left : Nat} {k v : Int} (h : v ∈ f.hits z left k) :
    f.hits z left k =
      (f.hits z left k).filter (· < v) ++
        v :: f.hits z (left - (v + 1 - k).toNat) (v + 1) := by
  obtain ⟨hv, hfires⟩ := mem_hits.1 h
  have hwindow := mem_window_of_mem_visited hv
  obtain ⟨rest, hrest⟩ : ∃ rest, left - (v - k).toNat = rest + 1 :=
    ⟨left - (v - k).toNat - 1, by omega⟩
  -- a walk that starts with a hit goes on in the next minute
  have hbehind : f.hits z (left - (v - k).toNat) v =
      v :: f.hits z (left - (v + 1 - k).toNat) (v + 1) := by
    rw [hrest, hits_succ, if_pos hfires, stride_of_firesIn hfires]
    congr 2
    omega
  calc f.hits z left k
      = ((f.visited z left 0 k).filter (· < v)).filter (f.firesIn z) ++
          f.hits z (left - (v - k).toNat) v := by
        rw [hits, visited_split hv, List.filter_append, ← visited_split hv]
        rfl
    _ = (f.hits z left k).filter (· < v) ++ v :: f.hits z (left - (v + 1 - k).toNat) (v + 1) := by
        rw [hbehind, List.filter_comm]
        rfl

/-- Behind its `i`-th hit, a window holds the hits of a walk that starts in the minute after it. -/
lemma drop_hits {left i : Nat} {k v : Int} (h : (f.hits z left k)[i]? = some v) :
    (f.hits z left k).drop (i + 1) = f.hits z (left - (v + 1 - k).toNat) (v + 1) := by
  obtain ⟨hi, rfl⟩ := List.getElem?_eq_some_iff.1 h
  set v := (f.hits z left k)[i] with hv
  have hsplit : (f.hits z left k).filter (· < v) ++
      v :: f.hits z (left - (v + 1 - k).toNat) (v + 1) =
        (f.hits z left k).take i ++ v :: (f.hits z left k).drop (i + 1) := by
    rw [← hits_split (List.getElem_mem hi), hv, ← List.drop_eq_getElem_cons hi,
      List.take_append_drop]
  refine ((List.append_cons_inj_of_notMem ?_ ?_).1 hsplit).2.2.symm
  · simp
  · intro hmem
    have := (mem_window_of_mem_hits hmem).1
    omega

/-! ## The walk -/

lemma walk_skip (f : Fields) (z : Zone) (left skip limit : Nat) (k : Int) :
    f.walk z left skip limit k = f.walk z (left - skip) 0 limit (k + skip) := by
  induction left generalizing skip k with
  | zero => simp [walk]
  | succ left ih =>
    cases skip with
    | zero => simp
    | succ skip =>
      rw [walk, ih, Nat.add_sub_add_right]
      congr 1
      push_cast
      ring

@[simp] lemma walk_left_zero (f : Fields) (z : Zone) (skip limit : Nat) (k : Int) :
    f.walk z 0 skip limit k = .ok [] := by
  simp [walk]

@[simp] lemma walk_limit_zero (f : Fields) (z : Zone) (left : Nat) (k : Int) :
    f.walk z left 0 0 k = .ok [] := by
  cases left <;> simp [walk]

/-- One stride of a walk: the reading has to be on the line and so has the minute that the stride
leads to, and a hit is kept. -/
lemma walk_succ (f : Fields) (z : Zone) (left limit : Nat) (k : Int) :
    f.walk z (left + 1) 0 (limit + 1) k = (do
      let _ ← z.tell (k * oneMinute)
      let _ ← onLine ((k + f.stride z k) * oneMinute)
      if f.firesIn z k then
        return k :: (← f.walk z (left + 1 - f.stride z k) 0 limit (k + f.stride z k))
      else f.walk z (left + 1 - f.stride z k) 0 (limit + 1) (k + f.stride z k)) := by
  rw [walk]
  cases htell : z.tell (k * oneMinute) with
  | error e => rfl
  | ok m =>
    obtain ⟨-, rfl⟩ := Zone.tell_eq_ok_iff.1 htell
    have hshown : Civil.ofWall (z.momentAt (k * oneMinute)).wall = z.shown k := rfl
    have hlt := z.shown_minute_lt k
    simp only [bind, Except.bind, hshown]
    by_cases hhour : f.firesInHour (z.shown k) = true
    · have hstride : f.stride z k = 1 := by simp [stride, hhour]
      have hfires : f.firesIn z k = f.minute.values.contains (z.shown k).minute := by
        simp [firesIn, fires, hhour]
      rw [if_pos hhour, hstride, hfires]
      rfl
    · have hstride : f.stride z k = 60 - (z.shown k).minute := by simp [stride, hhour]
      have hfires : f.firesIn z k = false := by simp [firesIn, fires, hhour]
      -- the minutes up to the end of the hour are passed over one by one
      rw [if_neg hhour, hstride, hfires, walk_skip f z left]
      have hleft : left - (59 - (z.shown k).minute) = left + 1 - (60 - (z.shown k).minute) := by
        omega
      have hminute : k + 1 + ((59 - (z.shown k).minute : Nat) : Int) =
          k + ((60 - (z.shown k).minute : Nat) : Int) := by omega
      have hcast : ((60 - (z.shown k).minute : Nat) : Int) = 60 - ((z.shown k).minute : Int) := by
        omega
      rw [hleft, hminute, hcast]
      rfl

/-- The stride that a walk starts with, if the walk answers. -/
lemma walk_succ_cases {left limit : Nat} {k : Int} {found : List Int}
    (h : f.walk z (left + 1) 0 (limit + 1) k = .ok found) :
    (∃ m, z.tell (k * oneMinute) = .ok m) ∧
      ((f.firesIn z k = true ∧ ∃ rest, found = k :: rest ∧
          f.walk z (left + 1 - f.stride z k) 0 limit (k + f.stride z k) = .ok rest) ∨
        (f.firesIn z k = false ∧
          f.walk z (left + 1 - f.stride z k) 0 (limit + 1) (k + f.stride z k) = .ok found)) := by
  rw [walk_succ] at h
  obtain ⟨m, hm, h⟩ := bind_eq_ok_iff.1 h
  obtain ⟨-, -, h⟩ := bind_eq_ok_iff.1 h
  refine ⟨⟨m, hm⟩, ?_⟩
  by_cases hfires : f.firesIn z k = true
  · rw [if_pos hfires] at h
    obtain ⟨rest, hrest, hfound⟩ := bind_eq_ok_iff.1 h
    exact .inl ⟨hfires, rest, (pure_eq_ok_iff.1 hfound).symm, hrest⟩
  · rw [if_neg hfires] at h
    exact .inr ⟨by simpa using hfires, h⟩

/-- A walk that answers has found the first hits of the window. -/
theorem eq_take_hits_of_walk {left limit : Nat} {k : Int} {found : List Int}
    (h : f.walk z left 0 limit k = .ok found) : found = (f.hits z left k).take limit := by
  revert h
  induction left, k using f.stride_induction z generalizing limit found with
  | zero k => simp [eq_comm]
  | succ left k ih =>
    cases limit with
    | zero => simp [eq_comm]
    | succ limit =>
      intro h
      rw [hits_succ]
      obtain ⟨-, ⟨hfires, rest, rfl, hrest⟩ | ⟨hfires, hrest⟩⟩ := walk_succ_cases h
      · rw [if_pos hfires, List.take_succ_cons, ih hrest]
      · rw [if_neg (by simp [hfires]), ih hrest]

/-- What a walk has found has a reading on the line. -/
lemma tell_of_walk {left limit : Nat} {k : Int} {found : List Int}
    (h : f.walk z left 0 limit k = .ok found) :
    ∀ v ∈ found, ∃ m, z.tell (v * oneMinute) = .ok m := by
  revert h
  induction left, k using f.stride_induction z generalizing limit found with
  | zero k => simp +contextual [eq_comm]
  | succ left k ih =>
    cases limit with
    | zero => simp +contextual [eq_comm]
    | succ limit =>
      intro h
      obtain ⟨htell, ⟨-, rest, rfl, hrest⟩ | ⟨-, hrest⟩⟩ := walk_succ_cases h
      · exact List.forall_mem_cons.2 ⟨htell, ih hrest⟩
      · exact ih hrest

/-- Whatever it finds, a walk answers if its window and the hour behind it are on the line, and so are
the readings in the window: a stride is no longer than an hour. -/
theorem walk_eq_ok_of_onLine {left : Nat} {k : Int}
    (hline : ∀ v, k ≤ v → v < k + left + 60 → ∃ t, onLine (v * oneMinute) = .ok t)
    (htell : ∀ v, k ≤ v → v < k + left → ∃ m, z.tell (v * oneMinute) = .ok m) (limit : Nat) :
    f.walk z left 0 limit k = .ok ((f.hits z left k).take limit) := by
  revert hline htell
  induction left, k using f.stride_induction z generalizing limit with
  | zero k => simp
  | succ left k ih =>
    intro hline htell
    cases limit with
    | zero => simp
    | succ limit =>
      have hpos := f.stride_pos z k
      have hhour := f.stride_le z k
      obtain ⟨m, hm⟩ := htell k le_rfl (by omega)
      obtain ⟨t, ht⟩ := hline (k + f.stride z k) (by omega) (by omega)
      have hrest : ∀ wanted, f.walk z (left + 1 - f.stride z k) 0 wanted (k + f.stride z k) =
          .ok ((f.hits z (left + 1 - f.stride z k) (k + f.stride z k)).take wanted) := by
        intro wanted
        -- behind a stride that leads out of the window nothing is left to walk
        by_cases hover : left + 1 ≤ f.stride z k
        · rw [Nat.sub_eq_zero_of_le hover]
          simp
        · exact ih wanted (fun v h₁ h₂ => hline v (by omega) (by omega))
            fun v h₁ h₂ => htell v (by omega) (by omega)
      rw [walk_succ, hits_succ, hm, ok_bind, ht, ok_bind]
      by_cases hfires : f.firesIn z k = true
      · rw [if_pos hfires, if_pos hfires, hrest limit, ok_bind, List.take_succ_cons]
        rfl
      · rw [if_neg hfires, if_neg hfires, hrest (limit + 1)]

end Fields

end Crontab
