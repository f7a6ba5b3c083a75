import Crontab.Advice
import Crontab.Ascending
import Crontab.Calendar.Date
import Crontab.Calendar.Month
import Crontab.Chain
import Crontab.Command.Arguments
import Crontab.Command.Outcome
import Crontab.Command.Request
import Crontab.Comparison
import Crontab.DateText
import Crontab.Dialect.Conversion
import Crontab.Dialect.Format
import Crontab.Dialect.OnCalendar
import Crontab.Dialect.QuestionMark
import Crontab.Dialect.Weekday
import Crontab.Expression
import Crontab.Fault
import Crontab.Field
import Crontab.Journal
import Crontab.Journal.Session
import Crontab.Json
import Crontab.Main
import Crontab.Numeral.Basic
import Crontab.Numeral.Reader
import Crontab.Occurrence
import Crontab.Phrase.Clause
import Crontab.Phrase.Generation
import Crontab.Phrase.Table
import Crontab.Phrase.TimeOfDay
import Crontab.Position
import Crontab.Proofs.Accepted
import Crontab.Proofs.Answer
import Crontab.Proofs.Answered
import Crontab.Proofs.Calendar
import Crontab.Proofs.Coincidence
import Crontab.Proofs.Comparison
import Crontab.Proofs.Dialect.Answered
import Crontab.Proofs.Dialect.Format
import Crontab.Proofs.Dialect.Layout
import Crontab.Proofs.Dialect.OnCalendar
import Crontab.Proofs.Dialect.QuestionMark
import Crontab.Proofs.Dialect.Weekday
import Crontab.Proofs.Dialect.WeekdayKept
import Crontab.Proofs.Dialect.WeekdayList
import Crontab.Proofs.Dialect.WeekdayReading
import Crontab.Proofs.Dialect.WeekdayShift
import Crontab.Proofs.Expression
import Crontab.Proofs.Field.Bounds
import Crontab.Proofs.Field.Grammar
import Crontab.Proofs.Field.Meaning
import Crontab.Proofs.Field.Names
import Crontab.Proofs.Field.Spellings
import Crontab.Proofs.Field.Stored
import Crontab.Proofs.Phrase.AnyOrder
import Crontab.Proofs.Phrase.Clauses
import Crontab.Proofs.Phrase.Consistent
import Crontab.Proofs.Phrase.Drafted
import Crontab.Proofs.Phrase.Leading
import Crontab.Proofs.Phrase.Selected
import Crontab.Proofs.Phrase.TimeOfDay
import Crontab.Proofs.Phrase.Vocabulary
import Crontab.Proofs.Schedule
import Crontab.Proofs.Text.Marks
import Crontab.Proofs.Text.Rewriting
import Crontab.Proofs.Text.Runs
import Crontab.Proofs.Text.Scanning
import Crontab.Proofs.Text.Splitting
import Crontab.Proofs.Text.Words
import Crontab.Proofs.Walk.Between
import Crontab.Proofs.Walk.FirstRun
import Crontab.Proofs.Walk.Jump
import Crontab.Proofs.Walk.Paging
import Crontab.Proofs.Walk.SingleTime
import Crontab.Proofs.Walk.Visited
import Crontab.Proofs.Walk.Window
import Crontab.Report.Document
import Crontab.Report.Layout
import Crontab.Report.Plain
import Crontab.Report.Stamp
import Crontab.Report.Table
import Crontab.Sentence
import Crontab.Settings
import Crontab.Settings.File
import Crontab.Settings.NameTable
import Crontab.Settings.Reference
import Crontab.Settings.Whole
import Crontab.Text.Basic
import Crontab.Text.Blank
import Crontab.Text.Cased
import Crontab.Text.Columns
import Crontab.Text.Digit
import Crontab.Text.Lower
import Crontab.Text.Picture
import Crontab.Text.Printable
import Crontab.Text.Quoted
import Crontab.Text.Ranges
import Crontab.Text.Scan
import Crontab.Text.Word
import Crontab.Time.Iso
import Crontab.Time.Moment
import Crontab.Zone.Atlas
import Crontab.Zone.Basic
import Crontab.Zone.History
import Crontab.Proofs.Advice
import Crontab.Proofs.Canonical
import Crontab.Proofs.Dialect.RecasedWeekdays
import Crontab.Proofs.Dialect.WeekdayWalk
import Crontab.Proofs.Dialect.FiveFields
import Crontab.Proofs.Session
import Crontab.Proofs.Time.Iso
import Crontab.Proofs.DateText
