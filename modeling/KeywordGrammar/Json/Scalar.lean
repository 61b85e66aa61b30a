/-
# Words and strings

A word is one of `null`, `true` and `false`.  A string stands between double quotes; in it a backslash
starts an escape, controls are refused, and a character outside the basic plane may be written as a
pair of escaped code units, of which neither may stand alone.
-/
import KeywordGrammar.Json.Reader
import KeywordGrammar.Json.Value

namespace KeywordGrammar.Json

/-! ## 1. Words -/

/-- The rest of a word of which `letters` are still to come. -/
def wordFrom (letters : List Char) (value : Value) (s : List Char) : Outcome Value :=
  match letters, s with
  | [], s => .ok (value, s)
  | _ :: _, [] => stop .unfinishedValue [] 0
  | l :: more, c :: r => if c = l then wordFrom more value r else stop .expectedWord (c :: r) 1

theorem length_wordFrom_le : ∀ {letters : List Char} {value v : Value} {s r : List Char},
    wordFrom letters value s = .ok (v, r) → r.length ≤ s.length
  | [], _, _, _, _, h => by
    simp only [wordFrom, Except.ok.injEq, Prod.mk.injEq] at h
    exact Nat.le_of_eq (congrArg List.length h.2.symm)
  | _ :: _, _, _, [], _, h => absurd h (by simp [wordFrom, stop])
  | l :: more, value, v, c :: s, r, h => by
    simp only [wordFrom] at h
    split at h
    · exact Nat.le_succ_of_le (length_wordFrom_le h)
    · exact absurd h (by simp [stop])

/-! ## 2. Escapes -/

/-- The value of a hexadecimal digit. -/
def hexValue? (c : Char) : Option Nat :=
  if '0' ≤ c ∧ c ≤ '9' then some (c.toNat - 48)
  else if 'a' ≤ c ∧ c ≤ 'f' then some (c.toNat - 87)
  else if 'A' ≤ c ∧ c ≤ 'F' then some (c.toNat - 55)
  else none

/-- The number that four hexadecimal digits write. -/
def fourHex? (a b c d : Char) : Option Nat :=
  match hexValue? a, hexValue? b, hexValue? c, hexValue? d with
  | some x, some y, some z, some w => some (((x * 16 + y) * 16 + z) * 16 + w)
  | _, _, _, _ => none

/-- Stops where four hexadecimal digits were due: four bytes count as read if there are four. -/
def stopInHex {α : Type} (s : List Char) : Outcome α :=
  if 4 ≤ (String.ofList (s.take 4)).utf8ByteSize then stop .invalidEscape s 4
  else stop .unfinishedString [] 0

/-- Four hexadecimal digits. -/
def hexFrom (s : List Char) : Outcome Nat :=
  match s with
  | a :: b :: c :: d :: r =>
    match fourHex? a b c d with
    | some n => .ok (n, r)
    | none => stopInHex s
  | _ => stopInHex s

theorem length_hexFrom_lt {s r : List Char} {n : Nat} (h : hexFrom s = .ok (n, r)) :
    r.length < s.length := by
  unfold hexFrom stopInHex stop at h
  repeat' split at h
  all_goals simp_all
  omega

/-- Whether a code unit leads a pair. -/
def isLeading (n : Nat) : Bool := decide (0xD800 ≤ n) && decide (n ≤ 0xDBFF)

/-- Whether a code unit ends a pair. -/
def isTrailing (n : Nat) : Bool := decide (0xDC00 ≤ n) && decide (n ≤ 0xDFFF)

/-- The character of a pair of code units. -/
def pairChar (lead trail : Nat) : Char :=
  Char.ofNat ((lead - 0xD800) * 0x400 + (trail - 0xDC00) + 0x10000)

/-- The second half of a pair whose first half was `lead`. -/
def trailFrom (lead : Nat) (s : List Char) : Outcome Char :=
  match s with
  | [] => stop .unfinishedString [] 0
  | '\\' :: 'u' :: r =>
    match hexFrom r with
    | .error e => .error e
    | .ok (n, t) => if isTrailing n then .ok (pairChar lead n, t) else stop .loneSurrogate t 0
  | ['\\'] => stop .unfinishedString [] 0
  | '\\' :: r => stop .unfinishedSurrogate r 1
  | s => stop .unfinishedSurrogate s 1

theorem length_trailFrom_lt {lead : Nat} {s r : List Char} {c : Char}
    (h : trailFrom lead s = .ok (c, r)) : r.length < s.length := by
  unfold trailFrom stop at h
  split at h
  · simp at h
  · split at h
    · simp at h
    · rename_i hn
      have := length_hexFrom_lt hn
      split at h
      · simp only [Except.ok.injEq, Prod.mk.injEq] at h
        simp only [List.length_cons, ← h.2]
        omega
      · simp at h
  · simp at h
  · simp at h
  · simp at h

/-- The character that code units in hexadecimal denote. -/
def unicodeFrom (s : List Char) : Outcome Char :=
  match hexFrom s with
  | .error e => .error e
  | .ok (n, r) =>
    if isTrailing n then stop .loneSurrogate r 0
    else if isLeading n then trailFrom n r
    else .ok (Char.ofNat n, r)

theorem length_unicodeFrom_lt {s r : List Char} {c : Char} (h : unicodeFrom s = .ok (c, r)) :
    r.length < s.length := by
  unfold unicodeFrom stop at h
  split at h
  · simp at h
  · rename_i hn
    have := length_hexFrom_lt hn
    split at h
    · simp at h
    · split at h
      · have := length_trailFrom_lt h
        omega
      · simp only [Except.ok.injEq, Prod.mk.injEq] at h
        rw [← h.2]
        omega

/-- The character that one letter after the backslash denotes. -/
def escapeChar? : Char → Option Char
  | '"' => some '"'
  | '\\' => some '\\'
  | '/' => some '/'
  | 'b' => some '\x08'
  | 'f' => some '\x0c'
  | 'n' => some '\n'
  | 'r' => some '\r'
  | 't' => some '\t'
  | _ => none

/-- The character that an escape denotes, from behind the backslash. -/
def escapeFrom (s : List Char) : Outcome Char :=
  match s with
  | [] => stop .unfinishedString [] 0
  | c :: r =>
    if c = 'u' then unicodeFrom r
    else
      match escapeChar? c with
      | some e => .ok (e, r)
      | none => stop .invalidEscape (c :: r) 1

theorem length_escapeFrom_lt {s r : List Char} {c : Char} (h : escapeFrom s = .ok (c, r)) :
    r.length < s.length := by
  unfold escapeFrom stop at h
  split at h
  · simp at h
  · split at h
    · have := length_unicodeFrom_lt h
      simp only [List.length_cons]
      omega
    · split at h
      · simp only [Except.ok.injEq, Prod.mk.injEq] at h
        simp [← h.2]
      · simp at h

/-! ## 3. Strings -/

/-- A string from behind its opening quote; `done` has been read, last character first. -/
def stringFrom (done : List Char) (s : List Char) : Outcome String :=
  match s with
  | [] => stop .unfinishedString [] 0
  | c :: r =>
    if c = '"' then .ok (String.ofList done.reverse, r)
    else if c = '\\' then
      match _h : escapeFrom r with
      | .error e => .error e
      | .ok (e, t) => stringFrom (e :: done) t
    else if c.toNat < 0x20 then stop .controlCharacter (c :: r) 1
    else stringFrom (c :: done) r
termination_by s.length
decreasing_by
  · have := length_escapeFrom_lt _h
    simp only [List.length_cons]
    omega
  · simp

theorem length_stringFrom_lt {done s r : List Char} {text : String}
    (h : stringFrom done s = .ok (text, r)) : r.length < s.length := by
  fun_induction stringFrom done s with
  | case1 => simp [stop] at h
  | case2 =>
    simp only [Except.ok.injEq, Prod.mk.injEq] at h
    simp [← h.2]
  | case3 => simp at h
  | case4 done t e u hescape _ ih =>
    have := length_escapeFrom_lt hescape
    have := ih h
    simp only [List.length_cons]
    omega
  | case5 => simp [stop] at h
  | case6 done c r' _ _ _ ih =>
    have := ih h
    simp only [List.length_cons]
    omega

end KeywordGrammar.Json
