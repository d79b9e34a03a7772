import Chip8.Console.Basic
import Chip8.Proofs.Text.UpperCase

/-!
What a console shows of a sequence of messages.  A message that ranks below the threshold leaves no
trace, and one that is shown costs a reading of the clock if lines carry the time (`log_eq`).  The
line of a message therefore depends on how many were shown before it and on nothing else
(`lineAt_afterLines`), and by induction a sequence is logged as those of its messages are that rank
high enough, each with the reading of its own place among them (`logAll_eq`).

Main result: `Console.logAll_exact`, which lines are written, and what changing the messages or the
threshold does to them.
-/

namespace Chip8

/-! ### Readings -/

namespace Clock

/-- The reading a clock gives after `k` others: when they have run out, the last one. -/
def reading (c : Clock) (k : Nat) : Float :=
  (c.next :: c.upcoming)[k]?.getD ((c.next :: c.upcoming).getLast (List.cons_ne_nil _ _))

/-- A clock that has been read `k` times. -/
def after (c : Clock) : Nat → Clock
  | 0 => c
  | k + 1 => c.read.2.after k

theorem read_fst (c : Clock) : c.read.1 = c.reading 0 := by
  rcases c with ⟨next, - | ⟨t, rest⟩⟩ <;> rfl

theorem reading_read (c : Clock) (k : Nat) : c.read.2.reading k = c.reading (k + 1) := by
  rcases c with ⟨next, - | ⟨t, rest⟩⟩
  · -- the only reading repeats
    rcases k with - | k <;> rfl
  · rfl

end Clock

/-! ### Messages -/

/-- A message for the log, with the name of its level in any case. -/
structure Console.Entry where
  level : String
  message : String
  deriving DecidableEq

namespace Console

/-- The level a message ranks as: the one it names, or `info` if it names none. -/
def Entry.rankedAs (e : Entry) : Level :=
  (Level.ofName? (Text.upperCase e.level)).getD .info

/-- Whether a message ranks at or above a level. -/
def Entry.ranksAt (l : Level) (e : Entry) : Bool :=
  l.rank ≤ e.rankedAs.rank

theorem Entry.rankedAs_of_name {e : Entry} {l : Level} (h : Text.upperCase e.level = l.name) :
    e.rankedAs = l := by
  rw [rankedAs, h, Level.ofName?_name, Option.getD_some]

theorem Entry.rankedAs_of_unknown {e : Entry} (h : ∀ l : Level, Text.upperCase e.level ≠ l.name) :
    e.rankedAs = .info := by
  have hnone : Level.ofName? (Text.upperCase e.level) = none :=
    List.find?_eq_none.mpr fun l _ => by simpa using (h l).symm
  rw [rankedAs, hnone, Option.getD_none]

/-- Log messages one after the other: the console afterwards, and each message that was shown with
its line. -/
def logAll (c : Console) : List Entry → Console × List (Entry × String)
  | [] => (c, [])
  | e :: rest =>
    let logged := c.log e.level e.message
    let later := logged.1.logAll rest
    (later.1, (logged.2.toList.map fun line => (e, line)) ++ later.2)

/-- The text that is written: every line is ended. -/
def written (c : Console) (entries : List Entry) : String :=
  String.join ((c.logAll entries).2.map fun shown => shown.2 ++ "\n")

/-- The messages that rank at or above the threshold. -/
def shown (c : Console) (entries : List Entry) : List Entry :=
  entries.filter (·.ranksAt c.threshold)

/-- The line of a message that `k` shown messages precede.  It carries the name its level has in
upper case, whether that is a level or not. -/
def lineAt (c : Console) (k : Nat) (e : Entry) : String :=
  (if c.stamps.isTrue then stamp (c.clock.reading k - c.start) else "") ++
    c.line (Text.upperCase e.level) e.message

/-! ### One message -/

/-- The console when `k` lines have been shown. -/
def afterLines (c : Console) (k : Nat) : Console :=
  { c with clock := if c.stamps.isTrue then c.clock.after k else c.clock }

theorem isEnabledFor_eq (c : Console) (e : Entry) :
    c.isEnabledFor e.level = e.ranksAt c.threshold :=
  rfl

theorem isEnabledFor_upperCase (c : Console) (level : String) :
    c.isEnabledFor (Text.upperCase level) = c.isEnabledFor level := by
  rw [isEnabledFor, isEnabledFor, Text.upperCase_upperCase]

/-- A message is shown if it ranks high enough, and only then is the clock read. -/
theorem log_eq (c : Console) (e : Entry) :
    c.log e.level e.message =
      if e.ranksAt c.threshold then (c.afterLines 1, some (c.lineAt 0 e)) else (c, none) := by
  rw [← isEnabledFor_eq, ← isEnabledFor_upperCase]
  simp only [log, afterLines, lineAt]
  by_cases hstamps : c.stamps.isTrue = true
  · simp only [if_pos hstamps, Clock.read_fst, Clock.after]
  · simp only [if_neg hstamps, String.empty_append]

theorem isSome_log (c : Console) (level message : String) :
    (c.log level message).2.isSome = c.isEnabledFor level := by
  have hlog := log_eq c ⟨level, message⟩
  rw [← isEnabledFor_eq] at hlog
  cases h : c.isEnabledFor level <;> simp [hlog, h]

/-! ### Many messages -/

theorem afterLines_zero (c : Console) : c.afterLines 0 = c := by
  simp only [afterLines, Clock.after, ite_self]

theorem afterLines_succ (c : Console) (k : Nat) :
    (c.afterLines 1).afterLines k = c.afterLines (k + 1) := by
  by_cases hstamps : c.stamps.isTrue = true
  · simp only [afterLines, if_pos hstamps, Clock.after]
  · simp only [afterLines, if_neg hstamps]

/-- The line of a message depends on how many lines were shown before, not on what was left out. -/
theorem lineAt_afterLines (c : Console) (k : Nat) (e : Entry) :
    (c.afterLines 1).lineAt k e = c.lineAt (k + 1) e := by
  have hline (level message : String) :
      (c.afterLines 1).line level message = c.line level message := rfl
  rw [lineAt, lineAt, hline]
  by_cases hstamps : c.stamps.isTrue = true
  · simp only [afterLines, if_pos hstamps, Clock.after, Clock.reading_read]
  · simp only [afterLines, if_neg hstamps]

/-- A sequence of messages is logged as those of them are that rank high enough. -/
theorem logAll_eq (c : Console) (entries : List Entry) :
    c.logAll entries = (c.afterLines (c.shown entries).length,
      (c.shown entries).mapIdx fun k e => (e, c.lineAt k e)) := by
  induction entries generalizing c with
  | nil => rw [logAll, shown, List.filter_nil, List.length_nil, afterLines_zero, List.mapIdx_nil]
  | cons e rest ih =>
    rw [logAll, log_eq, shown, List.filter_cons]
    by_cases h : e.ranksAt c.threshold = true
    · simp only [if_pos h, ih, afterLines_succ, lineAt_afterLines, List.mapIdx_cons,
        List.length_cons, shown]
      rfl
    · simp only [if_neg h, ih, Option.toList_none, List.map_nil, List.nil_append, shown]

theorem ranksAt_of_le {l l' : Level} (h : l.rank ≤ l'.rank) {e : Entry}
    (he : e.ranksAt l' = true) : e.ranksAt l = true :=
  decide_eq_true (Nat.le_trans h (of_decide_eq_true he))

/-- Messages that rank at or above a higher threshold rank at or above the lower one. -/
theorem shown_raised (c : Console) {l : Level} (h : c.threshold.rank ≤ l.rank)
    (entries : List Entry) :
    ({ c with threshold := l }).shown entries = (c.shown entries).filter (·.ranksAt l) := by
  rw [shown, shown, List.filter_filter]
  refine List.filter_congr fun e _ => ?_
  cases he : e.ranksAt l
  · rfl
  · rw [ranksAt_of_le h he, Bool.and_self]

/-- Without the time a line does not depend on its place. -/
theorem lines_of_not_stamps {c : Console} (h : c.stamps.isTrue = false) (entries : List Entry) :
    (c.logAll entries).2 =
      (c.shown entries).map fun e => (e, c.line (Text.upperCase e.level) e.message) := by
  rw [logAll_eq]
  refine List.ext_getElem? fun k => ?_
  simp only [List.getElem?_mapIdx, List.getElem?_map, lineAt, h, Bool.false_eq_true, if_false,
    String.empty_append]

/-- **A console shows exactly the messages that rank at or above its threshold.**  The text is one
line for each of them, in their order, with the next reading of the clock where the time is shown;
messages below the threshold, wherever they stand, change neither the text nor the console, and so
no later time.  Without the time, the lines of a raised threshold are those of the old one that
rank high enough.  A message is written if and only if its level is enabled. -/
theorem logAll_exact (c : Console) (entries : List Entry) :
    c.written entries =
        String.join ((c.shown entries).mapIdx fun k e => c.lineAt k e ++ "\n") ∧
      (c.logAll entries).1 = c.afterLines (c.shown entries).length ∧
      (∀ others, c.shown others = c.shown entries → c.logAll others = c.logAll entries) ∧
      (c.stamps.isTrue = false → ∀ l : Level, c.threshold.rank ≤ l.rank →
        ({ c with threshold := l }.logAll entries).2 =
          (c.logAll entries).2.filter fun shown => shown.1.ranksAt l) ∧
      (∀ e : Entry, (∃ l : Level, Text.upperCase e.level = l.name ∧ e.rankedAs = l) ∨
        (∀ l : Level, Text.upperCase e.level ≠ l.name) ∧ e.rankedAs = .info) ∧
      ∀ level message, (c.log level message).2.isSome = c.isEnabledFor level := by
  refine ⟨?_, by rw [logAll_eq], fun others h => by rw [logAll_eq, logAll_eq, h], ?_, fun e => ?_,
    c.isSome_log⟩
  · rw [written, logAll_eq]
    refine congrArg String.join (List.ext_getElem? fun k => ?_)
    simp only [List.getElem?_map, List.getElem?_mapIdx, Option.map_map]
    rfl
  · intro hstamps l hl
    rw [lines_of_not_stamps hstamps, lines_of_not_stamps (c := { c with threshold := l }) hstamps,
      shown_raised c hl, List.filter_map]
    rfl
  · by_cases h : ∃ l : Level, Text.upperCase e.level = l.name
    · obtain ⟨l, hl⟩ := h
      exact .inl ⟨l, hl, Entry.rankedAs_of_name hl⟩
    · have hunknown (l : Level) : Text.upperCase e.level ≠ l.name := fun hl => h ⟨l, hl⟩
      exact .inr ⟨hunknown, Entry.rankedAs_of_unknown hunknown⟩

/-- A console that shows no colours and no time. -/
def bare : Console where
  name := .text "core"
  threshold := .info
  colours := .bool false
  stamps := .bool false
  start := 0
  clock := ⟨0, []⟩

/-- Messages of a level below the threshold, of none of the five, and of one above. -/
def mixedCase : List Entry :=
  [⟨"debug", "a"⟩, ⟨"Notice", "b"⟩, ⟨"eRRor", "c"⟩]

theorem logAll_exact_mixedCase :
    bare.written mixedCase = "[  NOTICE][core] b\n[   ERROR][core] c\n" ∧
      bare.logAll mixedCase.tail = bare.logAll mixedCase ∧
      ({ bare with threshold := .warning }.logAll mixedCase).2 =
        (bare.logAll mixedCase).2.filter fun shown => shown.1.ranksAt .warning := by
  obtain ⟨htext, -, hsame, hraised, -, -⟩ := logAll_exact bare mixedCase
  exact ⟨htext.trans (by decide +kernel), hsame _ (by decide +kernel),
    hraised rfl .warning (by decide)⟩

end Console

end Chip8
