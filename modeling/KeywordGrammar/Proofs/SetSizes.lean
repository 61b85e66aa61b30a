/-
# How large a set of characters is

A set of characters needs states for the bytes of UTF-8, and how many depends on what its characters
share.  To know that a rule is small enough it is not needed to build them: sharing only saves room, so
a set never takes more than its sequences of bytes would for themselves (`takesAtMost_addSet?`).

Forwards, states stay open while the sequences come in and are closed later.  What an open state will
take is counted from the moment it is opened, with each way on as it is added (`OpenState.room`); then
every step takes no more than the sequence that it reads accounts for.
-/
import KeywordGrammar.Pattern.Size
import Mathlib.Algebra.GroupWithZero.Nat
import Mathlib.Data.List.Forall2

namespace KeywordGrammar.Pattern

open Unicode

/-! ## 1. Bounded additions -/

/-- Whether something can be added wherever so many bytes are left, and takes no more of them. -/
def TakesAtMost (add : Room → Option Room) (bytes : Nat) : Prop :=
  ∀ r : Room, bytes ≤ r.bytesLeft → ∃ r', add r = some r' ∧ r.bytesLeft ≤ r'.bytesLeft + bytes

namespace TakesAtMost

variable {f g : Room → Option Room} {m n : Nat}

theorem bind (hf : TakesAtMost f m) (hg : TakesAtMost g n) :
    TakesAtMost (fun r => (f r).bind g) (m + n) := by
  intro r hr
  obtain ⟨r₁, h₁, hleft₁⟩ := hf r (by omega)
  obtain ⟨r₂, h₂, hleft₂⟩ := hg r₁ (by omega)
  refine ⟨r₂, ?_, by omega⟩
  simp only [h₁, Option.bind_some, h₂]

theorem spend? (bytes : Nat) : TakesAtMost (fun r => r.spend? bytes) bytes := by
  intro r hr
  refine ⟨⟨r.states, r.bytesLeft - bytes⟩, if_pos hr, ?_⟩
  simp only
  omega

theorem add? (bytes : Nat) : TakesAtMost (fun r => r.add? bytes) (stateBytes + bytes) := by
  intro r hr
  obtain ⟨r', h, hleft⟩ := spend? (stateBytes + bytes) r hr
  refine ⟨⟨r'.states + 1, r'.bytesLeft⟩, ?_, hleft⟩
  simp only [Room.add?, h, Option.map_some]

end TakesAtMost

/-- A state in a table takes the room of a new one at most. -/
theorem exists_state? (t : StateTable) (r : Room) (key : List Nat) (bytes : Nat)
    (h : stateBytes + bytes ≤ r.bytesLeft) : ∃ state t' r', t.state? r key bytes = some (state, t', r') ∧
      r.bytesLeft ≤ r'.bytesLeft + (stateBytes + bytes) := by
  obtain ⟨r', hadd, hleft⟩ := TakesAtMost.add? bytes r h
  simp only at hadd
  simp only [StateTable.state?, hadd, Option.map_some]
  split
  · split
    · exact ⟨_, _, _, rfl, by omega⟩
    · exact ⟨_, _, _, rfl, hleft⟩
  · exact ⟨_, _, _, rfl, hleft⟩

/-! ## 2. Forwards -/

/-- Bytes that an open state takes when it is closed, with one way on more than it has. -/
def OpenState.room (s : OpenState) : Nat := stateBytes + (s.moves.length + 1) * transitionBytes

/-- Bytes that some open states take. -/
def openRoom (states : List OpenState) : Nat := (states.map OpenState.room).sum

/-- Bytes that a sequence takes for itself: in each direction a state for each byte, with one way on
forwards, and backwards a way on from where all sequences end. -/
def sequenceRoom (spans : ByteSpans) : Nat :=
  spans.length * (stateBytes + transitionBytes) + branchBytes

theorem sequenceRoom_cons (span : Nat × Nat) (rest : ByteSpans) :
    sequenceRoom (span :: rest) = sequenceRoom rest + (stateBytes + transitionBytes) := by
  rw [sequenceRoom, sequenceRoom, List.length_cons, Nat.succ_mul, Nat.add_right_comm]

/-- Bytes that some sequences take for themselves. -/
def sequencesRoom (sequences : List ByteSpans) : Nat := (sequences.map sequenceRoom).sum

theorem exists_closeStates? (goal : Nat) : ∀ (states : List OpenState) (t : StateTable) (r : Room),
    openRoom states ≤ r.bytesLeft → ∃ state t' r',
      closeStates? goal states t r = some (state, t', r') ∧
        r.bytesLeft ≤ r'.bytesLeft + openRoom states
  | [], t, r, _ => ⟨goal, t, r, rfl, Nat.le_add_right _ _⟩
  | s :: deeper, t, r, h => by
    have hroom : openRoom (s :: deeper) = s.room + openRoom deeper := rfl
    rw [hroom] at h ⊢
    obtain ⟨next, t₁, r₁, h₁, hleft₁⟩ := exists_closeStates? goal deeper t r (by omega)
    have hmoves : ((s.pending.1, s.pending.2, next) :: s.moves).reverse.length =
        s.moves.length + 1 := by
      rw [List.length_reverse, List.length_cons]
    simp only [closeStates?, h₁, hmoves]
    have hleft : s.room ≤ r₁.bytesLeft := by omega
    obtain ⟨state, t₂, r₂, h₂, hleft₂⟩ := exists_state? t₁ r₁ _ _ hleft
    refine ⟨state, t₂, r₂, h₂, ?_⟩
    rw [← OpenState.room] at hleft₂
    omega

/-- New states take what the sequence accounts for. -/
theorem openRoom_map (spans : ByteSpans) :
    openRoom (spans.map (⟨[], ·⟩)) = spans.length * (stateBytes + transitionBytes) := by
  induction spans with
  | nil => rfl
  | cons span rest ih =>
    have hroom : openRoom ((span :: rest).map (⟨[], ·⟩)) =
        stateBytes + transitionBytes + openRoom (rest.map (⟨[], ·⟩)) := by
      simp [openRoom, OpenState.room]
    rw [hroom, ih, List.length_cons, Nat.succ_mul, Nat.add_comm]

/-- **What is opened for a sequence, and what is closed for it, take no more than the states that were
open and the sequence.** -/
theorem exists_openStates? (goal : Nat) : ∀ (states : List OpenState) (spans : ByteSpans)
    (t : StateTable) (r : Room), openRoom states ≤ r.bytesLeft → ∃ states' t' r',
      openStates? goal states spans t r = some (states', t', r') ∧
        r.bytesLeft + openRoom states' ≤ r'.bytesLeft + openRoom states + sequenceRoom spans
  | [], spans, t, r, _ => by
    refine ⟨spans.map (⟨[], ·⟩), t, r, rfl, ?_⟩
    rw [openRoom_map, sequenceRoom]
    omega
  | s :: deeper, [], t, r, _ => by
    refine ⟨[], t, r, rfl, ?_⟩
    have : openRoom [] = 0 := rfl
    omega
  | s :: deeper, span :: rest, t, r, h => by
    have hroom : openRoom (s :: deeper) = s.room + openRoom deeper := rfl
    rw [hroom] at h ⊢
    rw [sequenceRoom_cons]
    simp only [openStates?]
    split
    · obtain ⟨states, t₁, r₁, h₁, hleft₁⟩ := exists_openStates? goal deeper rest t r (by omega)
      refine ⟨s :: states, t₁, r₁, by rw [h₁]; rfl, ?_⟩
      have hstates : openRoom (s :: states) = s.room + openRoom states := rfl
      omega
    · -- what is deeper is closed, and the state gets one more way on
      obtain ⟨next, t₁, r₁, h₁, hleft₁⟩ := exists_closeStates? goal deeper t r (by omega)
      refine ⟨_, t₁, r₁, by rw [h₁]; rfl, ?_⟩
      have hmore : ∀ way, openRoom (⟨way :: s.moves, span⟩ :: rest.map (⟨[], ·⟩)) =
          s.room + transitionBytes + rest.length * (stateBytes + transitionBytes) := by
        intro way
        have hways : (s.moves.length + 1 + 1) * transitionBytes =
            (s.moves.length + 1) * transitionBytes + transitionBytes := Nat.succ_mul _ _
        rw [← openRoom_map]
        simp only [openRoom, OpenState.room, List.map_cons, List.sum_cons, List.length_cons]
        omega
      rw [hmore, sequenceRoom]
      omega

theorem exists_addForwards? (goal : Nat) : ∀ (sequences : List ByteSpans) (states : List OpenState)
    (t : StateTable) (r : Room), openRoom states + sequencesRoom sequences ≤ r.bytesLeft → ∃ r',
      addForwards? goal states t r sequences = some r' ∧
        r.bytesLeft ≤ r'.bytesLeft + (openRoom states + sequencesRoom sequences)
  | [], states, t, r, h => by
    obtain ⟨state, t₁, r₁, h₁, hleft₁⟩ := exists_closeStates? goal states t r (by omega)
    refine ⟨r₁, by rw [addForwards?, h₁]; rfl, by omega⟩
  | spans :: rest, states, t, r, h => by
    have hroom : sequencesRoom (spans :: rest) = sequenceRoom spans + sequencesRoom rest := rfl
    rw [hroom] at h ⊢
    obtain ⟨states', t₁, r₁, h₁, hleft₁⟩ := exists_openStates? goal states spans t r (by omega)
    obtain ⟨r₂, h₂, hleft₂⟩ := exists_addForwards? goal rest states' t₁ r₁ (by omega)
    refine ⟨r₂, ?_, by omega⟩
    rw [addForwards?, h₁]
    exact h₂

/-! ## 3. Backwards -/

theorem exists_addSequence? : ∀ (spans : ByteSpans) (goal : Nat) (t : StateTable) (r : Room),
    sequenceRoom spans ≤ r.bytesLeft → ∃ t' r', addSequence? goal t r spans = some (t', r') ∧
      r.bytesLeft ≤ r'.bytesLeft + sequenceRoom spans
  | [], goal, t, r, h => by
    have hroom : sequenceRoom [] = branchBytes := by simp [sequenceRoom]
    rw [hroom] at h ⊢
    obtain ⟨r₁, h₁, hleft₁⟩ := TakesAtMost.spend? branchBytes r h
    simp only at h₁
    exact ⟨t, r₁, by rw [addSequence?, h₁]; rfl, hleft₁⟩
  | (lo, hi) :: rest, goal, t, r, h => by
    rw [sequenceRoom_cons] at h ⊢
    obtain ⟨state, t₁, r₁, h₁, hleft₁⟩ := exists_state? t r [goal, lo, hi] 0 (by omega)
    obtain ⟨t₂, r₂, h₂, hleft₂⟩ := exists_addSequence? rest state t₁ r₁ (by omega)
    refine ⟨t₂, r₂, ?_, by omega⟩
    rw [addSequence?, h₁]
    exact h₂

theorem exists_addBackwards? (goal : Nat) : ∀ (sequences : List ByteSpans) (t : StateTable) (r : Room),
    sequencesRoom sequences ≤ r.bytesLeft → ∃ r', addBackwards? goal t r sequences = some r' ∧
      r.bytesLeft ≤ r'.bytesLeft + sequencesRoom sequences
  | [], t, r, _ => ⟨r, rfl, Nat.le_add_right _ _⟩
  | spans :: rest, t, r, h => by
    have hroom : sequencesRoom (spans :: rest) = sequenceRoom spans + sequencesRoom rest := rfl
    rw [hroom] at h ⊢
    obtain ⟨t₁, r₁, h₁, hleft₁⟩ := exists_addSequence? spans goal t r (by omega)
    obtain ⟨r₂, h₂, hleft₂⟩ := exists_addBackwards? goal rest t₁ r₁ (by omega)
    refine ⟨r₂, ?_, by omega⟩
    rw [addBackwards?, h₁]
    exact h₂

/-! ## 4. Sets and what is made of one -/

/-- Bytes that a set is sure not to exceed. -/
def setRoom (s : Spans) : Nat :=
  2 * stateBytes + s.length * transitionBytes + sequencesRoom (s.flatMap byteSpans)

/-- **A set takes no more than its sequences do for themselves.** -/
theorem takesAtMost_addSet? (d : Direction) (s : Spans) :
    TakesAtMost (fun r => r.addSet? d s) (setRoom s) := by
  intro r hr
  rw [setRoom] at hr ⊢
  simp only [Room.addSet?]
  split
  · have hadd := (TakesAtMost.add? 0).bind (TakesAtMost.add? (s.length * transitionBytes))
    obtain ⟨r', h, hleft⟩ := hadd r (by omega)
    exact ⟨r', h, by omega⟩
  · cases d with
    | forwards =>
      obtain ⟨r₁, h₁, hleft₁⟩ := TakesAtMost.add? 0 r (by omega)
      have hnone : openRoom [] = 0 := rfl
      obtain ⟨r₂, h₂, hleft₂⟩ := exists_addForwards? r.states (s.flatMap byteSpans) []
        (.empty forwardPlaces) r₁ (by omega)
      refine ⟨r₂, ?_, by omega⟩
      simp only at h₁
      simp only [h₁, Option.bind_some, h₂]
    | backwards =>
      obtain ⟨r₁, h₁, hleft₁⟩ := (TakesAtMost.add? 0).bind (TakesAtMost.add? 0) r (by omega)
      obtain ⟨r₂, h₂, hleft₂⟩ := exists_addBackwards? (r.states + 1) (s.flatMap byteSpans)
        (.empty backwardPlaces) r₁ (by omega)
      refine ⟨r₂, ?_, by omega⟩
      simp only at h₁
      simp only [h₁, Option.bind_some, h₂]

namespace Shape

variable {d : Direction} {p : Shape} {n : Nat}

theorem takesAtMost_look (l : Look) : TakesAtMost (add? d (look l)) stateBytes := TakesAtMost.add? 0

theorem takesAtMost_group (index : Nat) (h : TakesAtMost (add? d p) n) :
    TakesAtMost (add? d (group index p)) (stateBytes + n + stateBytes) := by
  cases d with
  | forwards => exact ((TakesAtMost.add? 0).bind h).bind (TakesAtMost.add? 0)
  | backwards =>
    intro r hr
    obtain ⟨r', hadd, hleft⟩ := h r (by omega)
    exact ⟨r', hadd, by omega⟩

theorem takesAtMost_atLeastOne (isGreedy : Bool) (h : TakesAtMost (add? d p) n) :
    TakesAtMost (add? d (repetition ⟨1, none⟩ isGreedy p)) (n + (stateBytes + 2 * branchBytes)) := by
  intro r hr
  obtain ⟨r', hadd, hleft⟩ := h.bind (TakesAtMost.add? (2 * branchBytes)) r hr
  refine ⟨r', ?_, hleft⟩
  rw [← hadd]
  simp only [Shape.add?, repeat?, times?]
  cases p.add? d r with
  | none => rfl
  | some r₁ => rfl

theorem takesAtMost_seq {parts : List Shape} {sizes : List Nat}
    (h : List.Forall₂ (fun p n => TakesAtMost (add? d p) n) parts sizes) :
    TakesAtMost (addAll? d parts) sizes.sum := by
  induction h with
  | nil =>
    intro r _
    exact ⟨r, rfl, Nat.le_add_right _ _⟩
  | @cons p n parts sizes hp _ ih =>
    intro r hr
    rw [List.sum_cons] at hr ⊢
    obtain ⟨r', hadd, hleft⟩ := hp.bind ih r hr
    refine ⟨r', ?_, hleft⟩
    rw [← hadd]
    simp only [addAll?]
    cases p.add? d r with
    | none => rfl
    | some r₁ => rfl

/-! ## 5. Groups of a set between word boundaries -/

/-- The shape of a group of one or more characters of a set, between two word boundaries. -/
def wordOf (s : Spans) : Shape :=
  seq [look (.word .edge true), group 1 (repetition ⟨1, none⟩ true (set s true)),
    look (.word .edge true)]

theorem takesAtMost_wordOf (d : Direction) (s : Spans) :
    TakesAtMost (add? d (wordOf s)) (setRoom s + 5 * stateBytes + 2 * branchBytes) := by
  have hset : TakesAtMost (add? d (set s true)) (setRoom s) := takesAtMost_addSet? d s
  have hgroup := takesAtMost_group 1 (takesAtMost_atLeastOne true hset)
  have hall := takesAtMost_seq (.cons (takesAtMost_look (.word .edge true))
    (.cons hgroup (.cons (takesAtMost_look (.word .edge true)) .nil)))
  intro r hr
  obtain ⟨r', hadd, hleft⟩ := hall r (by simp only [List.sum_cons, List.sum_nil]; omega)
  simp only [List.sum_cons, List.sum_nil] at hleft
  exact ⟨r', hadd, by omega⟩

theorem fitsIn_forwards (limit : Nat) (p : Shape) : p.fitsIn limit .forwards =
    (((p.addFront? .forwards ⟨0, limit⟩).bind ((group 0 p).add? .forwards)).bind (·.add? 0)).isSome :=
  rfl

theorem fitsIn_backwards (limit : Nat) (p : Shape) : p.fitsIn limit .backwards =
    (((p.addFront? .backwards ⟨0, limit⟩).bind (p.mirror.add? .backwards)).bind (·.add? 0)).isSome :=
  rfl

/-- **A rule of that shape is small enough if its set is.** -/
theorem fits_wordOf {s : Spans} {limit : Nat} (h : setRoom s + 500 ≤ limit) :
    (wordOf s).fits limit = true := by
  have hfront : ∀ d, TakesAtMost (addFront? d (wordOf s))
      (stateBytes + 2 * branchBytes + (stateBytes + 0) + (stateBytes + transitionBytes)) := by
    intro d
    cases d with
    | forwards =>
      exact ((TakesAtMost.add? _).bind (TakesAtMost.add? 0)).bind (TakesAtMost.add? transitionBytes)
    | backwards =>
      exact ((TakesAtMost.add? _).bind (TakesAtMost.add? 0)).bind (TakesAtMost.add? transitionBytes)
  have hforwards := ((hfront .forwards).bind (takesAtMost_group 0 (takesAtMost_wordOf .forwards s))).bind
    (TakesAtMost.add? 0)
  have hbackwards := ((hfront .backwards).bind (takesAtMost_wordOf .backwards s)).bind
    (TakesAtMost.add? 0)
  have hbytes : stateBytes = 32 ∧ transitionBytes = 8 ∧ branchBytes = 4 := ⟨rfl, rfl, rfl⟩
  obtain ⟨r, hr, -⟩ := hforwards ⟨0, limit⟩ (by simp only; omega)
  obtain ⟨r', hr', -⟩ := hbackwards ⟨0, limit⟩ (by simp only; omega)
  have hmirror : (wordOf s).mirror = wordOf s := rfl
  rw [fits, fitsIn_forwards, fitsIn_backwards, hmirror]
  simp only at hr hr'
  simp only [hr, hr']
  exact Bool.or_true _

end Shape

end KeywordGrammar.Pattern
