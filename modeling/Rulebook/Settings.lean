/-
Rulebook/Settings.lean

Settings of rule evaluation: what happens when a rule reaches a reserved
operator, and how many turns a loop may begin.  Both can be read from
environment variables; a value that cannot be read leaves the default in
its place.

A policy is read past the blanks around it.  A character is blank when it has
the Unicode property `White_Space`, a larger class than the blanks of ASCII
(`Text.isBlank_of_isWhitespace`).
-/

namespace Rulebook

/-! ### Blanks -/

namespace Text

/-- Whether a character is blank. -/
def isBlank (c : Char) : Bool :=
  c == ' ' || ('\x09' ≤ c && c ≤ '\x0d') || c == '\x85' || c == '\xa0' || c == '\u1680' ||
    ('\u2000' ≤ c && c ≤ '\u200a') || c == '\u2028' || c == '\u2029' || c == '\u202f' ||
    c == '\u205f' || c == '\u3000'

theorem isBlank_of_isWhitespace {c : Char} (h : c.isWhitespace = true) : isBlank c = true := by
  simp only [Char.isWhitespace, Bool.or_eq_true, decide_eq_true_eq] at h
  rcases h with ((h | h) | h) | h <;> subst h <;> decide

/-- The characters of a text between the blanks at its two ends. -/
def trim (s : String) : List Char :=
  ((s.toList.dropWhile isBlank).reverse.dropWhile isBlank).reverse

end Text

/-! ### Reserved operators -/

/-- What happens when a rule reaches a reserved operator. -/
inductive ReservedPolicy where
  /-- The rule fails. -/
  | fail
  /-- The whole evaluation is aborted, which no rule can recover from. -/
  | abort
deriving DecidableEq

namespace ReservedPolicy

/-- Name of a policy. -/
def name : ReservedPolicy → String
  | .fail => "Error"
  | .abort => "Panic"

/-- Read a policy: blanks around it and the case of ASCII letters do not
matter. A text that names no policy is refused with a message. -/
def parse (s : String) : Except String ReservedPolicy :=
  let word := String.ofList ((Text.trim s).map Char.toLower)
  if word = "error" then .ok .fail
  else if word = "panic" then .ok .abort
  else .error ("expected `error` or `panic`, got `" ++ word ++ "`")

end ReservedPolicy

/-! ### Settings -/

/-- The settings of rule evaluation. -/
structure Settings where
  reserved : ReservedPolicy := .fail
  /-- The number of turns that one loop may begin; unlimited if absent. -/
  loopLimit : Option UInt32 := none
deriving DecidableEq

namespace Settings

/-- Whether a loop may begin its `n`-th turn. Turns are counted up to the
greatest 32-bit word, so this word as a limit is never exceeded. -/
def admits (s : Settings) (n : Nat) : Bool :=
  match s.loopLimit with
  | none => true
  | some limit => min n 4294967295 ≤ limit.toNat

theorem admits_congr {s t : Settings} (h : t.loopLimit = s.loopLimit) (n : Nat) :
    t.admits n = s.admits n := by
  rw [admits, admits, h]

theorem admits_zero (s : Settings) : s.admits 0 = true := by
  unfold admits
  split
  · rfl
  · exact decide_eq_true (Nat.zero_le _)

/-- A loop that may begin a turn may begin the turns before it. -/
theorem admits_of_le (s : Settings) {m n : Nat} (h : m ≤ n) (hn : s.admits n = true) :
    s.admits m = true := by
  unfold admits at hn ⊢
  split
  · rfl
  next limit e =>
    simp only [e, decide_eq_true_eq] at hn ⊢
    omega

/-- A limit below the greatest word is exceeded by the turn after it. -/
theorem admits_limit_succ {s : Settings} {limit : UInt32} (h : s.loopLimit = some limit)
    (below : limit.toNat < 4294967295) : s.admits (limit.toNat + 1) = false := by
  rw [admits, h]
  refine decide_eq_false fun exceeded => ?_
  omega

/-- Environment variable of the policy for reserved operators. -/
def reservedVariable : String := "MHS_EVAL_UNSUPPORTED"

/-- Environment variable of the loop limit. -/
def loopLimitVariable : String := "MHS_EVAL_MAX_LOOP_ITERATIONS"

/-- Read a loop limit: decimal digits of a 32-bit word, after an optional
plus sign, with blanks around them. -/
def parseLimit? (s : String) : Option UInt32 :=
  let cs := Text.trim s
  let digits := if cs.head? = some '+' then cs.tail else cs
  if digits.isEmpty || !digits.all Char.isDigit then none
  else
    let n := digits.foldl (fun n c => 10 * n + (c.toNat - '0'.toNat)) 0
    if n < 4294967296 then some (UInt32.ofNat n) else none

/-- The settings that a set of environment variables asks for. -/
def ofEnvironment (env : String → Option String) : Settings where
  reserved := (env reservedVariable >>= fun s => (ReservedPolicy.parse s).toOption).getD .fail
  loopLimit := env loopLimitVariable >>= parseLimit?

end Settings

end Rulebook
