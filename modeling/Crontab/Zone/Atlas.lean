import Crontab.Zone.History

/-!
# Atlas

The places whose offset histories the library knows, by the names of the time zone database.  Names
are told apart by the case of their letters.

The histories go from the year 2000 to the year 2500; before the first and after the last change
listed, the clocks are taken not to change.  Where the clocks are set every year on the same
Sundays, the changes are given by that rule.
-/

namespace Crontab

namespace Atlas

/-! ## Changes -/

/-- An offset of clocks that are ahead of UTC. -/
def ahead (h m s : Nat) : Int := h * oneHour + m * oneMinute + s * oneSecond

/-- An offset of clocks that are behind UTC. -/
def behind (h m s : Nat) : Int := -ahead h m s

/-- A change of offset at a time of UTC. -/
def change (year month day h m s : Nat) (offset : Int) : Change :=
  ⟨wallAt (Date.toDay ⟨year, month, day⟩) h m s 0, offset⟩

/-- The day number of a Sunday of a month, the first one being number 1. -/
def sunday (number year month : Nat) : Nat :=
  let first := Date.toDay ⟨year, month, 1⟩
  first + (7 - weekday first) % 7 + 7 * (number - 1)

/-- The day number of the last Sunday of a month. -/
def lastSunday (year month : Nat) : Nat :=
  let last := Date.toDay ⟨year, month, daysInMonth (isLeap year) month⟩
  last - weekday last

/-- A change of offset at a time that the clocks show when they are set. -/
def turn (day h m : Nat) (before after : Int) : Change := ⟨wallAt day h m 0 0 - before, after⟩

/-- The last year whose changes are listed. -/
abbrev lastYear : Nat := 2500

/-- The changes of all years from `first` to `last`. -/
def yearly (first last : Nat) (changes : Nat → List Change) : List Change :=
  (List.range' first (last + 1 - first)).flatMap changes

/-! ## Places -/

/-- Summer time of Europe, by an offset in winter and one in summer: from the last Sunday of March
to the last Sunday of October, both at 1:00 of UTC. -/
def european (first : Nat) (winter summer : Int) : List Change :=
  yearly first lastYear fun y =>
    [ turn (lastSunday y 3) 1 0 0 summer,
      turn (lastSunday y 10) 1 0 0 winter ]

/-- Summer time of North America until 2006: from the first Sunday of April to the last Sunday of
October, at a time of the clocks. -/
def americanAtFirst (h m : Nat) (winter summer : Int) : List Change :=
  yearly 2000 2006 fun y =>
    [ turn (sunday 1 y 4) h m winter summer,
      turn (lastSunday y 10) h m summer winter ]

/-- Summer time of North America since 2007: from the second Sunday of March to the first Sunday of
November, at times of the clocks. -/
def american (first last hMarch mMarch hNovember mNovember : Nat) (winter summer : Int) :
    List Change :=
  yearly first last fun y =>
    [ turn (sunday 2 y 3) hMarch mMarch winter summer,
      turn (sunday 1 y 11) hNovember mNovember summer winter ]

/-- The known places. -/
def places : List (Text × History) :=
  [ ("UTC", ⟨0, []⟩),
    ("America/New_York", ⟨behind 4 56 2,
      change 1883 11 18 17 0 0 (behind 5 0 0) ::
        americanAtFirst 2 0 (behind 5 0 0) (behind 4 0 0) ++
        american 2007 lastYear 2 0 2 0 (behind 5 0 0) (behind 4 0 0)⟩),
    ("America/St_Johns", ⟨behind 3 30 0,
      americanAtFirst 0 1 (behind 3 30 0) (behind 2 30 0) ++
        american 2007 2010 0 1 0 1 (behind 3 30 0) (behind 2 30 0) ++
        american 2011 2011 0 1 2 0 (behind 3 30 0) (behind 2 30 0) ++
        american 2012 lastYear 2 0 2 0 (behind 3 30 0) (behind 2 30 0)⟩),
    ("Europe/London", ⟨ahead 0 0 0, european 1996 (ahead 0 0 0) (ahead 1 0 0)⟩),
    ("Europe/Berlin", ⟨ahead 1 0 0, european 1996 (ahead 1 0 0) (ahead 2 0 0)⟩),
    ("Asia/Kolkata", ⟨ahead 5 30 0, []⟩),
    ("Asia/Kathmandu", ⟨ahead 5 45 0, []⟩),
    ("Asia/Tokyo", ⟨ahead 9 0 0, []⟩),
    ("Australia/Lord_Howe", ⟨ahead 11 0 0,
      [ turn (lastSunday 2000 3) 2 0 (ahead 11 0 0) (ahead 10 30 0),
        turn (lastSunday 2000 8) 2 0 (ahead 10 30 0) (ahead 11 0 0) ] ++
        (yearly 2001 2007 fun y =>
          [ turn (if y = 2006 then sunday 1 y 4 else lastSunday y 3) 2 0 (ahead 11 0 0)
              (ahead 10 30 0),
            turn (lastSunday y 10) 2 0 (ahead 10 30 0) (ahead 11 0 0) ]) ++
        yearly 2008 lastYear fun y =>
          [ turn (sunday 1 y 4) 2 0 (ahead 11 0 0) (ahead 10 30 0),
            turn (sunday 1 y 10) 2 0 (ahead 10 30 0) (ahead 11 0 0) ]⟩),
    ("Pacific/Chatham", ⟨ahead 13 45 0,
      yearly 2000 lastYear fun y =>
        [ turn (if y ≤ 2007 then sunday 3 y 3 else sunday 1 y 4) 3 45 (ahead 13 45 0)
            (ahead 12 45 0),
          turn (if y ≤ 2006 then sunday 1 y 10 else lastSunday y 9) 2 45 (ahead 12 45 0)
            (ahead 13 45 0) ]⟩),
    ("Antarctica/Troll", ⟨ahead 0 0 0, european 2005 (ahead 0 0 0) (ahead 2 0 0)⟩),
    ("Asia/Beirut", ⟨ahead 2 0 0,
      yearly 2000 lastYear fun y =>
        [ turn (lastSunday y 3) 0 0 (ahead 2 0 0) (ahead 3 0 0),
          turn (lastSunday y 10) 0 0 (ahead 3 0 0) (ahead 2 0 0) ]⟩),
    ("Africa/Casablanca", ⟨ahead 0 0 0,
      [ change 2008 6 1 0 0 0 (ahead 1 0 0),
        change 2008 8 31 23 0 0 (ahead 0 0 0),
        change 2009 6 1 0 0 0 (ahead 1 0 0),
        change 2009 8 20 23 0 0 (ahead 0 0 0),
        change 2010 5 2 0 0 0 (ahead 1 0 0),
        change 2010 8 7 23 0 0 (ahead 0 0 0),
        change 2011 4 3 0 0 0 (ahead 1 0 0),
        change 2011 7 30 23 0 0 (ahead 0 0 0),
        change 2012 4 29 2 0 0 (ahead 1 0 0),
        change 2012 7 20 2 0 0 (ahead 0 0 0),
        change 2012 8 20 2 0 0 (ahead 1 0 0),
        change 2012 9 30 2 0 0 (ahead 0 0 0),
        change 2013 4 28 2 0 0 (ahead 1 0 0),
        change 2013 7 7 2 0 0 (ahead 0 0 0),
        change 2013 8 10 2 0 0 (ahead 1 0 0),
        change 2013 10 27 2 0 0 (ahead 0 0 0),
        change 2014 3 30 2 0 0 (ahead 1 0 0),
        change 2014 6 28 2 0 0 (ahead 0 0 0),
        change 2014 8 2 2 0 0 (ahead 1 0 0),
        change 2014 10 26 2 0 0 (ahead 0 0 0),
        change 2015 3 29 2 0 0 (ahead 1 0 0),
        change 2015 6 14 2 0 0 (ahead 0 0 0),
        change 2015 7 19 2 0 0 (ahead 1 0 0),
        change 2015 10 25 2 0 0 (ahead 0 0 0),
        change 2016 3 27 2 0 0 (ahead 1 0 0),
        change 2016 6 5 2 0 0 (ahead 0 0 0),
        change 2016 7 10 2 0 0 (ahead 1 0 0),
        change 2016 10 30 2 0 0 (ahead 0 0 0),
        change 2017 3 26 2 0 0 (ahead 1 0 0),
        change 2017 5 21 2 0 0 (ahead 0 0 0),
        change 2017 7 2 2 0 0 (ahead 1 0 0),
        change 2017 10 29 2 0 0 (ahead 0 0 0),
        change 2018 3 25 2 0 0 (ahead 1 0 0),
        change 2018 5 13 2 0 0 (ahead 0 0 0),
        change 2018 6 17 2 0 0 (ahead 1 0 0),
        change 2019 5 5 2 0 0 (ahead 0 0 0),
        change 2019 6 9 2 0 0 (ahead 1 0 0),
        change 2020 4 19 2 0 0 (ahead 0 0 0),
        change 2020 5 31 2 0 0 (ahead 1 0 0),
        change 2021 4 11 2 0 0 (ahead 0 0 0),
        change 2021 5 16 2 0 0 (ahead 1 0 0),
        change 2022 3 27 2 0 0 (ahead 0 0 0),
        change 2022 5 8 2 0 0 (ahead 1 0 0),
        change 2023 3 19 2 0 0 (ahead 0 0 0),
        change 2023 4 23 2 0 0 (ahead 1 0 0),
        change 2024 3 10 2 0 0 (ahead 0 0 0),
        change 2024 4 14 2 0 0 (ahead 1 0 0),
        change 2025 2 23 2 0 0 (ahead 0 0 0),
        change 2025 4 6 2 0 0 (ahead 1 0 0),
        change 2026 2 15 2 0 0 (ahead 0 0 0),
        change 2026 3 22 2 0 0 (ahead 1 0 0),
        change 2026 9 20 1 0 0 (ahead 0 0 0) ]⟩),
    ("America/Sao_Paulo", ⟨behind 2 0 0,
      [ change 2000 2 27 2 0 0 (behind 3 0 0),
        change 2000 10 8 3 0 0 (behind 2 0 0),
        change 2001 2 18 2 0 0 (behind 3 0 0),
        change 2001 10 14 3 0 0 (behind 2 0 0),
        change 2002 2 17 2 0 0 (behind 3 0 0),
        change 2002 11 3 3 0 0 (behind 2 0 0),
        change 2003 2 16 2 0 0 (behind 3 0 0),
        change 2003 10 19 3 0 0 (behind 2 0 0),
        change 2004 2 15 2 0 0 (behind 3 0 0),
        change 2004 11 2 3 0 0 (behind 2 0 0),
        change 2005 2 20 2 0 0 (behind 3 0 0),
        change 2005 10 16 3 0 0 (behind 2 0 0),
        change 2006 2 19 2 0 0 (behind 3 0 0),
        change 2006 11 5 3 0 0 (behind 2 0 0),
        change 2007 2 25 2 0 0 (behind 3 0 0),
        change 2007 10 14 3 0 0 (behind 2 0 0),
        change 2008 2 17 2 0 0 (behind 3 0 0),
        change 2008 10 19 3 0 0 (behind 2 0 0),
        change 2009 2 15 2 0 0 (behind 3 0 0),
        change 2009 10 18 3 0 0 (behind 2 0 0),
        change 2010 2 21 2 0 0 (behind 3 0 0),
        change 2010 10 17 3 0 0 (behind 2 0 0),
        change 2011 2 20 2 0 0 (behind 3 0 0),
        change 2011 10 16 3 0 0 (behind 2 0 0),
        change 2012 2 26 2 0 0 (behind 3 0 0),
        change 2012 10 21 3 0 0 (behind 2 0 0),
        change 2013 2 17 2 0 0 (behind 3 0 0),
        change 2013 10 20 3 0 0 (behind 2 0 0),
        change 2014 2 16 2 0 0 (behind 3 0 0),
        change 2014 10 19 3 0 0 (behind 2 0 0),
        change 2015 2 22 2 0 0 (behind 3 0 0),
        change 2015 10 18 3 0 0 (behind 2 0 0),
        change 2016 2 21 2 0 0 (behind 3 0 0),
        change 2016 10 16 3 0 0 (behind 2 0 0),
        change 2017 2 19 2 0 0 (behind 3 0 0),
        change 2017 10 15 3 0 0 (behind 2 0 0),
        change 2018 2 18 2 0 0 (behind 3 0 0),
        change 2018 11 4 3 0 0 (behind 2 0 0),
        change 2019 2 17 2 0 0 (behind 3 0 0) ]⟩),
    ("Pacific/Apia", ⟨behind 11 0 0,
      [ change 2010 9 26 11 0 0 (behind 10 0 0),
        change 2011 4 2 14 0 0 (behind 11 0 0),
        change 2011 9 24 14 0 0 (behind 10 0 0),
        change 2011 12 30 10 0 0 (ahead 14 0 0),
        change 2012 3 31 14 0 0 (ahead 13 0 0),
        change 2012 9 29 14 0 0 (ahead 14 0 0),
        change 2013 4 6 14 0 0 (ahead 13 0 0),
        change 2013 9 28 14 0 0 (ahead 14 0 0),
        change 2014 4 5 14 0 0 (ahead 13 0 0),
        change 2014 9 27 14 0 0 (ahead 14 0 0),
        change 2015 4 4 14 0 0 (ahead 13 0 0),
        change 2015 9 26 14 0 0 (ahead 14 0 0),
        change 2016 4 2 14 0 0 (ahead 13 0 0),
        change 2016 9 24 14 0 0 (ahead 14 0 0),
        change 2017 4 1 14 0 0 (ahead 13 0 0),
        change 2017 9 23 14 0 0 (ahead 14 0 0),
        change 2018 3 31 14 0 0 (ahead 13 0 0),
        change 2018 9 29 14 0 0 (ahead 14 0 0),
        change 2019 4 6 14 0 0 (ahead 13 0 0),
        change 2019 9 28 14 0 0 (ahead 14 0 0),
        change 2020 4 4 14 0 0 (ahead 13 0 0),
        change 2020 9 26 14 0 0 (ahead 14 0 0),
        change 2021 4 3 14 0 0 (ahead 13 0 0) ]⟩),
    ("Africa/Monrovia", ⟨behind 0 44 30,
      [ change 1972 1 7 0 44 30 (ahead 0 0 0) ]⟩) ]

/-- The history of a place. -/
def find? (name : Text) : Option History := places.lookup name

end Atlas

/-- The time zone of a name; `local` is the zone that the program runs in. -/
def Zone.find (around : History) (name : Text) : Except Fault Zone :=
  if name = "local" then .ok around.here
  else
    match Atlas.find? name with
    | some h => .ok (h.named name)
    | none => .error (.unknownZone name)

end Crontab
