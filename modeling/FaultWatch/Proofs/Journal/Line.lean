/-
  FaultWatch/Proofs/Journal/Line.lean
  ===================================
  **Lines can be read back.**

  An entry is a fact and its line is text, but nothing is lost in between: from level and
  text alone the entry is found again (`Entry.ofLine?`), so no two entries share a line.

  A line begins with one of a few openings, and none of these is the beginning of another
  one (`Opening.eq_of_isPrefixOf`); this is all there is to compare.  So the opening is
  known, and what is left is a handle, which always has the same width, or a number with
  something behind it that is no digit.  The reader first takes a guess by these means
  and then checks it by writing the entry out again.
-/
import FaultWatch.Journal

namespace FaultWatch

open Text

/-! ### Handles and numbers -/

namespace Handle

variable {k : HandleKind}

def ofDigits? (digits : Text) : Option (Handle k) :=
  (readHexFrom? 0 digits).map fun n => ⟨UInt64.ofNat n⟩

/-- The handle that is written like this, its first two characters skipped. -/
def ofText? (t : Text) : Option (Handle k) := ofDigits? (t.drop 2)

theorem ofDigits?_fixedHex (h : Handle k) : ofDigits? (fixedHex 16 h.value.toNat) = some h := by
  rw [ofDigits?, readHexFrom?_digits, Option.map_some, UInt64.ofNat_toNat]

theorem ofText?_text (h : Handle k) : ofText? h.text = some h := by
  rw [ofText?, drop_text, ofDigits?_fixedHex]

end Handle

/-- Digits are read until something else comes. -/
theorem Text.takeWhile_ofNat_append (n : Nat) {c : Char} (hc : c.isDigit = false) (rest : Text) :
    (ofNat 10 n ++ c :: rest).takeWhile Char.isDigit = ofNat 10 n := by
  have hdigits : ∀ d ∈ ofNat 10 n, d.isDigit = true := fun d hd =>
    Nat.isDigit_of_mem_toDigits (by decide) (by decide) hd
  rw [List.takeWhile_append_of_pos hdigits, List.takeWhile_cons_of_neg (by simp [hc]),
    List.append_nil]

/-! ### Openings -/

/-- The words that a line begins with. -/
inductive Opening where
  | received (kind : NotificationKind)
  | created
  | destroyed
  /-- Of lines that only remark something about a thread. -/
  | remark
  | released
  | unknown
  | invalid
  | locked
deriving DecidableEq

namespace Opening

def text : Opening → Text
  | received kind => kind.name ++ ": ".toList
  | created => "Thread Created: ".toList
  | destroyed => "Thread Destroyed: ".toList
  | remark => "Thread 0x".toList
  | released => "Released ".toList
  | unknown => "Unknown thread - ".toList
  | invalid => "Invalid argument - ".toList
  | locked => "Failed to lock target".toList

def all : List Opening :=
  [received .threadCreated, received .threadDestroyed, received .exceptionCleared,
    received .exceptionThrown, received .exceptionCatcherFound, received .exceptionQuery,
    created, destroyed, remark, released, unknown, invalid, locked]

theorem mem_all (o : Opening) : o ∈ all := by
  rcases o with kind | _ | _ | _ | _ | _ | _ | _
  · cases kind <;> decide
  all_goals decide

/-- **No opening is the beginning of another one.** -/
theorem eq_of_isPrefixOf : ∀ o ∈ all, ∀ o' ∈ all, o.text.isPrefixOf o'.text → o = o' := by
  decide

/-- The opening that the text begins with. -/
def of? (t : Text) : Option Opening := all.find? fun o => o.text.isPrefixOf t

/-- **The opening of a line is known**, whatever comes behind it. -/
theorem of?_append (o : Opening) (rest : Text) : of? (o.text ++ rest) = some o := by
  have hown : o.text.isPrefixOf (o.text ++ rest) = true := by simp
  cases hfound : of? (o.text ++ rest) with
  | none =>
    have hnone := List.find?_eq_none.mp hfound o o.mem_all
    exact absurd hown hnone
  | some o' =>
    -- both begin the same text, so one of them begins the other
    have hother : o'.text <+: o.text ++ rest := by simpa using List.find?_some hfound
    rcases List.prefix_or_prefix_of_prefix hother (List.prefix_append o.text rest) with h | h
    · rw [eq_of_isPrefixOf o' o'.mem_all o o.mem_all (by simpa using h)]
    · rw [eq_of_isPrefixOf o o.mem_all o' o'.mem_all (by simpa using h)]

/-- The entry whose line has this opening, by what comes behind it. -/
def entry? (rest : Text) : Opening → Option Entry
  | received kind => (Handle.ofText? rest).map (.received kind)
  | created => (Handle.ofText? rest).map .created
  | destroyed => (Handle.ofText? rest).map .destroyed
  | remark =>
    (Handle.ofDigits? (rest.take 16)).map fun t =>
      if rest.drop 16 = " was not registered".toList then .notRegistered t else .recordReset t
  | released => some (.released (Nat.ofDigitChars 10 (rest.takeWhile Char.isDigit) 0))
  | unknown => (Handle.ofText? rest).map fun t => .failed (.unknownThread t)
  | invalid => some (.failed (.invalidArgument rest))
  | locked => some (.failed .lockPoisoned)

end Opening

/-! ### Entries -/

namespace Entry

def opening : Entry → Opening
  | received kind _ => .received kind
  | created _ => .created
  | destroyed _ => .destroyed
  | recordReset _ | notRegistered _ => .remark
  | released _ => .released
  | failed (.unknownThread _) => .unknown
  | failed (.invalidArgument _) => .invalid
  | failed .lockPoisoned => .locked

/-- What comes behind the opening. -/
def body : Entry → Text
  | received _ t | created t | destroyed t | failed (.unknownThread t) => t.text
  | recordReset t => fixedHex 16 t.value.toNat ++ " was still registered, record reset".toList
  | notRegistered t => fixedHex 16 t.value.toNat ++ " was not registered".toList
  | released n => ofNat 10 n ++ " thread records".toList
  | failed (.invalidArgument reason) => reason
  | failed .lockPoisoned => []

theorem text_remark (t : ThreadId) (words : Text) :
    "Thread ".toList ++ t.text ++ words =
      Opening.remark.text ++ (fixedHex 16 t.value.toNat ++ words) := by
  have hassoc : ∀ a b c d : Text, a ++ (b ++ c) ++ d = (a ++ b) ++ (c ++ d) := by
    intro a b c d
    simp only [List.append_assoc]
  exact hassoc "Thread ".toList "0x".toList (fixedHex 16 t.value.toNat) words

theorem text_eq (e : Entry) : e.text = e.opening.text ++ e.body := by
  rcases e with ⟨kind, t⟩ | t | t | t | t | n | f
  · rfl
  · rfl
  · exact text_remark t _
  · rfl
  · exact text_remark t _
  · exact List.append_assoc "Released ".toList (ofNat 10 n) " thread records".toList
  · cases f <;> rfl

theorem entry?_remark (t : ThreadId) (words : Text) :
    Opening.remark.entry? (fixedHex 16 t.value.toNat ++ words) =
      some (if words = " was not registered".toList then .notRegistered t else .recordReset t) := by
  have hlen : (fixedHex 16 t.value.toNat).length = 16 := length_fixedHex 16 _
  simp only [Opening.entry?, List.take_left' hlen, List.drop_left' hlen,
    Handle.ofDigits?_fixedHex, Option.map_some]

theorem entry?_body (e : Entry) : e.opening.entry? e.body = some e := by
  rcases e with ⟨kind, t⟩ | t | t | t | t | n | f
  · simp only [opening, body, Opening.entry?, Handle.ofText?_text, Option.map_some]
  · simp only [opening, body, Opening.entry?, Handle.ofText?_text, Option.map_some]
  · rw [opening, body, entry?_remark, if_neg (by decide)]
  · simp only [opening, body, Opening.entry?, Handle.ofText?_text, Option.map_some]
  · rw [opening, body, entry?_remark, if_pos rfl]
  · have hdigits := Text.takeWhile_ofNat_append n (c := ' ') rfl "thread records".toList
    have hwords : " thread records".toList = ' ' :: "thread records".toList := rfl
    rw [opening, body, Opening.entry?, hwords, hdigits, ofNat, Nat.ofDigitChars_ten_toDigits]
  · cases f <;> simp only [opening, body, Opening.entry?, Handle.ofText?_text, Option.map_some]

/-- Take a guess what entry the text is of. -/
def guess? (t : Text) : Option Entry :=
  (Opening.of? t).bind fun o => o.entry? (t.drop o.text.length)

theorem guess?_text (e : Entry) : guess? e.text = some e := by
  rw [guess?, text_eq, Opening.of?_append, Option.bind_some, List.drop_left, entry?_body]

/-- The entry that the line is of, by its level and text alone. -/
def ofLine? (line : Level × Text) : Option Entry :=
  (guess? line.2).filter fun e => e.line = line

/-- **No two entries have the same text.** -/
theorem text_injective : Function.Injective text := by
  intro e e' h
  apply Option.some.inj
  rw [← guess?_text e, ← guess?_text e', h]

/-- **A line is read as the entry it was written for**, and no other text is read. -/
theorem ofLine?_eq_some_iff (line : Level × Text) (e : Entry) :
    ofLine? line = some e ↔ e.line = line := by
  rw [ofLine?, Option.filter_eq_some_iff]
  constructor
  · rintro ⟨-, h⟩
    exact of_decide_eq_true h
  · rintro rfl
    exact ⟨e.guess?_text, decide_eq_true rfl⟩

/-- A handle whose digits are too few is not read. -/
example :
    ofLine? (.debug, "Thread 0x0000000000000007 was not registered".toList) =
        some (.notRegistered ⟨7⟩) ∧
      ofLine? (.debug, "Thread 0x7 was not registered".toList) = none := by
  decide

end Entry

end FaultWatch
