/-
# Lists, objects and values

A list and an object are both a series: bracketed, separated by commas, without a comma at the end.
They differ in their brackets, in the faults they report and in what they are a series of.  A value
that may still nest `depth` levels is a scalar or a series of values that may nest one level less.
-/
import KeywordGrammar.Json.Scalar
import KeywordGrammar.Json.Numeral

namespace KeywordGrammar.Json

/-! ## 1. Series -/

/-- The brackets of a series, and what is reported when it breaks off or lacks a separator. -/
structure Brackets where
  opening : Char
  closing : Char
  unfinished : Fault
  unseparated : Fault

/-- The brackets of a list. -/
def Brackets.list : Brackets := ⟨'[', ']', .unfinishedList, .expectedListEnd⟩

/-- The brackets of an object. -/
def Brackets.object : Brackets := ⟨'\x7b', '\x7d', .unfinishedObject, .expectedObjectEnd⟩

namespace Reader

variable {α : Type}

/-- What follows an item of a series. -/
def moreFrom (b : Brackets) (item : Reader α) (s : List Char) : Outcome (List α) :=
  match _hs : skipSpace s with
  | [] => stop b.unfinished [] 0
  | c :: r =>
    if c = b.closing then .ok ([], r)
    else if c = ',' then
      match _hr : skipSpace r with
      | [] => stop .unfinishedValue [] 0
      | d :: t =>
        if d = b.closing then stop .trailingComma (d :: t) 1
        else
          match _hi : item.run (d :: t) with
          | .error e => .error e
          | .ok (a, u) =>
            match moreFrom b item u with
            | .error e => .error e
            | .ok (rest, v) => .ok (a :: rest, v)
    else stop b.unseparated (c :: r) 1
termination_by s.length
decreasing_by
  have h₁ := length_skipSpace_le s
  have h₂ := length_skipSpace_le r
  have h₃ := item.shrinks _hi
  rw [_hs] at h₁
  rw [_hr] at h₂
  simp only [List.length_cons] at *
  omega

theorem length_moreFrom_lt {b : Brackets} {item : Reader α} {s r : List Char} {l : List α}
    (h : moreFrom b item s = .ok (l, r)) : r.length < s.length := by
  fun_induction moreFrom b item s generalizing l r with
  | case1 => simp [stop] at h
  | case2 s t hs =>
    have h₁ := length_skipSpace_le s
    rw [hs] at h₁
    simp only [Except.ok.injEq, Prod.mk.injEq] at h
    simp only [List.length_cons, h.2] at *
    omega
  | case3 => simp [stop] at h
  | case4 => simp [stop] at h
  | case5 => simp at h
  | case6 => simp at h
  | case7 s t d u hr _ a w hi rest v hm hs _ ih =>
    have h₁ := length_skipSpace_le s
    have h₂ := length_skipSpace_le t
    have h₃ := item.shrinks hi
    have h₄ := ih hm
    rw [hs] at h₁
    rw [hr] at h₂
    simp only [Except.ok.injEq, Prod.mk.injEq] at h
    simp only [List.length_cons, h.2] at *
    omega
  | case8 => simp [stop] at h

/-- A series from behind its opening bracket. -/
def itemsFrom (b : Brackets) (item : Reader α) (s : List Char) : Outcome (List α) :=
  match skipSpace s with
  | [] => stop b.unfinished [] 0
  | c :: r =>
    if c = b.closing then .ok ([], r)
    else
      match item.run (c :: r) with
      | .error e => .error e
      | .ok (a, t) =>
        match moreFrom b item t with
        | .error e => .error e
        | .ok (rest, u) => .ok (a :: rest, u)

theorem length_itemsFrom_lt {b : Brackets} {item : Reader α} {s r : List Char} {l : List α}
    (h : itemsFrom b item s = .ok (l, r)) : r.length < s.length := by
  have h₁ := length_skipSpace_le s
  unfold itemsFrom stop at h
  split at h
  · simp at h
  · rename_i c t hs
    rw [hs, List.length_cons] at h₁
    split at h
    · simp only [Except.ok.injEq, Prod.mk.injEq] at h
      rw [← h.2]
      omega
    · split at h
      · simp at h
      · rename_i hi
        have h₂ := item.shrinks hi
        split at h
        · simp at h
        · rename_i hm
          have h₃ := length_moreFrom_lt hm
          simp only [Except.ok.injEq, Prod.mk.injEq] at h
          rw [← h.2]
          simp only [List.length_cons] at h₂
          omega

/-- A series from its opening bracket on. -/
def seriesFrom (b : Brackets) (item : Reader α) : List Char → Outcome (List α)
  | [] => stop .unfinishedValue [] 0
  | c :: r => if c = b.opening then itemsFrom b item r else stop .expectedValue (c :: r) 1

theorem length_seriesFrom_lt {b : Brackets} {item : Reader α} {s r : List Char} {l : List α}
    (h : seriesFrom b item s = .ok (l, r)) : r.length < s.length := by
  unfold seriesFrom stop at h
  split at h
  · simp at h
  · split at h
    · have := length_itemsFrom_lt h
      simp only [List.length_cons]
      omega
    · simp at h

/-- The reader of a series. -/
def series (b : Brackets) (item : Reader α) : Reader (List α) where
  run := seriesFrom b item
  shrinks := length_seriesFrom_lt

/-- A key, a colon and what the key stands for. -/
def member (value : Reader α) : Reader (String × α) where
  run s :=
    match s with
    | [] => stop .unfinishedValue [] 0
    | c :: r =>
      if c = '"' then
        match stringFrom [] r with
        | .error e => .error e
        | .ok (key, t) =>
          match skipSpace t with
          | [] => stop .unfinishedObject [] 0
          | d :: u =>
            if d = ':' then
              match value.run u with
              | .error e => .error e
              | .ok (v, w) => .ok ((key, v), w)
            else stop .expectedColon (d :: u) 1
      else stop .keyNotString (c :: r) 1
  shrinks := by
    intro s p r h
    split at h
    · simp [stop] at h
    · split at h
      · split at h
        · simp at h
        · rename_i t hk
          have h₁ := length_stringFrom_lt hk
          have h₂ := length_skipSpace_le t
          split at h
          · simp [stop] at h
          · rename_i hd
            rw [hd] at h₂
            split at h
            · split at h
              · simp at h
              · rename_i hv
                have h₃ := value.shrinks hv
                simp only [Except.ok.injEq, Prod.mk.injEq] at h
                rw [← h.2]
                simp only [List.length_cons] at *
                omega
            · simp [stop] at h
      · simp [stop] at h

/-! ## 2. Values -/

/-- A scalar from its first character on. -/
def scalarFrom (c : Char) (r : List Char) : Outcome Value :=
  if c = '"' then
    match stringFrom [] r with
    | .ok (text, t) => .ok (.string text, t)
    | .error e => .error e
  else if c = 'n' then wordFrom ['u', 'l', 'l'] .null r
  else if c = 't' then wordFrom ['r', 'u', 'e'] (.bool true) r
  else if c = 'f' then wordFrom ['a', 'l', 's', 'e'] (.bool false) r
  else if c = '-' then numberFrom true r
  else if c.isDigit then numberFrom false (c :: r)
  else stop .expectedValue (c :: r) 1

theorem length_scalarFrom_le {c : Char} {r t : List Char} {v : Value}
    (h : scalarFrom c r = .ok (v, t)) : t.length ≤ r.length := by
  unfold scalarFrom at h
  repeat' split at h
  · rename_i hs
    have := length_stringFrom_lt hs
    simp only [Except.ok.injEq, Prod.mk.injEq] at h
    rw [← h.2]
    omega
  · simp at h
  · exact length_wordFrom_le h
  · exact length_wordFrom_le h
  · exact length_wordFrom_le h
  · have := length_numberFrom_lt h
    omega
  · have := length_numberFrom_lt h
    simp only [List.length_cons] at this
    omega
  · simp [stop] at h

/-- A scalar, or a list or object by the given readers. -/
def valueBy (list object : Reader Value) : Reader Value where
  run s :=
    match skipSpace s with
    | [] => stop .unfinishedValue [] 0
    | c :: r =>
      if c = Brackets.list.opening then list.run (c :: r)
      else if c = Brackets.object.opening then object.run (c :: r)
      else scalarFrom c r
  shrinks := by
    intro s v t h
    have h₁ := length_skipSpace_le s
    split at h
    · simp [stop] at h
    · rename_i hs
      rw [hs] at h₁
      split at h
      · have := list.shrinks h
        omega
      · split at h
        · have := object.shrinks h
          omega
        · have := length_scalarFrom_le h
          simp only [List.length_cons] at h₁
          omega

/-- A value that may nest `depth` levels. -/
def value : Nat → Reader Value
  | 0 => valueBy (refuse .tooDeep) (refuse .tooDeep)
  | depth + 1 =>
    valueBy ((series .list (value depth)).map .array)
      ((series .object (member (value depth))).map .object)

end Reader

/-! ## 3. Whole texts -/

/-- Reads a whole text: nothing but space may follow. -/
def readAll {α : Type} (reader : Reader α) (text : String) : Except (Fault × Position) α :=
  let outcome : Except Stop α :=
    match reader.run text.toList with
    | .error e => .error e
    | .ok (a, r) =>
      match skipSpace r with
      | [] => .ok a
      | c :: t => .error ⟨.trailingCharacters, c :: t, 1⟩
  outcome.mapError (fun e => (e.fault, e.position text))

/-- The value that a text denotes, if it nests at most `depth` levels. -/
def Value.read (depth : Nat) (text : String) : Except (Fault × Position) Value :=
  readAll (Reader.value depth) text

end KeywordGrammar.Json
