/-
# Precedence

The precedence order ranks the categories, highest first.  It is usable for a set of candidates only
if it names no category twice and leaves out no category that something was routed to: a term without
an owner would silently fall to the rule for ordinary words.
-/
import KeywordGrammar.Candidates

namespace KeywordGrammar

/-- A ranking of category names, highest first. -/
structure Precedence where
  names : List String
  deriving DecidableEq, Repr

/-- Why an order cannot rank the candidates. -/
inductive PrecedenceFault where
  | repeated (category : String)
  | unlisted (category : String)
  deriving DecidableEq, Repr

/-- The first name that already stands earlier in the list; `seen` stands before the list. -/
def firstRepeated (seen : List String) : List String → Option String
  | [] => none
  | name :: rest => if name ∈ seen then some name else firstRepeated (name :: seen) rest

theorem firstRepeated_eq_none_iff : ∀ {names seen : List String},
    firstRepeated seen names = none ↔ names.Nodup ∧ ∀ n ∈ names, n ∉ seen
  | [], _ => by simp [firstRepeated]
  | name :: rest, seen => by
    simp only [firstRepeated]
    split
    · rename_i h
      simp [h]
    · rename_i h
      rw [firstRepeated_eq_none_iff]
      simp only [List.nodup_cons, List.mem_cons, not_or, forall_eq_or_imp]
      constructor
      · rintro ⟨hnd, hrest⟩
        exact ⟨⟨fun hin => (hrest name hin).1 rfl, hnd⟩, h, fun n hn => (hrest n hn).2⟩
      · rintro ⟨⟨hin, hnd⟩, -, hrest⟩
        exact ⟨hnd, fun n hn => ⟨fun he => hin (he ▸ hn), hrest n hn⟩⟩

namespace Precedence

/-- The place of a category, 0 being the highest. -/
def rank (order : Precedence) (category : String) : Option Nat := order.names.idxOf? category

/-- Number of ranked categories, repetitions counted. -/
def size (order : Precedence) : Nat := order.names.length

/-- Whether no category is ranked. -/
def isEmpty (order : Precedence) : Bool := order.names.isEmpty

/-- Why the order cannot rank the candidates, if it cannot.  A repeated name is reported before an
unlisted one, and of several unlisted ones the smallest. -/
def fault? (order : Precedence) (cands : Candidates) : Option PrecedenceFault :=
  match firstRepeated [] order.names with
  | some category => some (.repeated category)
  | none => (cands.names.find? (fun c => decide (c ∉ order.names))).map .unlisted

end Precedence

end KeywordGrammar
