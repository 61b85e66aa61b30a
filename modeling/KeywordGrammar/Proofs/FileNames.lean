/-
# The category that a file is named for

A flat list does not say what its lines are; the name of its file does.  Category names have points in
them, so of a file name only what stands behind the last point is cut off, and only if something stands
in front of that point.  Where the file is, and how its path is written, does not matter.

A path is taken apart at its slashes.  `components_append_slash` says that a slash divides the
components of what stands in front of it from those of what stands behind it.  Two facts follow by it:
a directory contributes components of its own and leaves the file name whole (`steps_append`), and
slashes or points behind a path contribute none that lead anywhere (`steps_append_join`).  So the file
name is the last step of the path (`IsFile.steps_eq`), and its stem is the name in front of the
extension.

`stem_names_list` puts this together with loading and with whole runs.
-/
import KeywordGrammar.Proofs.PopulationFiles

namespace KeywordGrammar

open Unicode

namespace Path

/-! ## 1. Steps of a path -/

/-- The components that lead somewhere: a single point stays where it is. -/
def steps (path : String) : List String := (components path).filter (· ≠ ".")

/-- A slash divides components and belongs to none. -/
theorem components_append_slash (front back : String) :
    components (front ++ "/" ++ back) = components front ++ components back := by
  have htext : (front ++ "/" ++ back).toList = front.toList ++ '/' :: back.toList := by
    rw [String.toList_append, String.toList_append, List.append_assoc]
    rfl
  rw [components, htext, List.splitOn_append_cons_self, List.filter_append, List.map_append]
  rfl

/-- A text without a slash is one component. -/
theorem components_of_not_mem {name : String} (hname : name ≠ "") (hslash : '/' ∉ name.toList) :
    components name = [name] := by
  have hne : name.toList.isEmpty = false := by
    rw [List.isEmpty_eq_false_iff, Ne, String.toList_eq_nil_iff]
    exact hname
  rw [components, List.splitOn_eq_singleton hslash, List.filter_cons_of_pos (by rw [hne]; rfl),
    List.filter_nil, List.map_singleton, String.ofList_toList]

theorem steps_append_slash (front back : String) :
    steps (front ++ "/" ++ back) = steps front ++ steps back := by
  rw [steps, components_append_slash, List.filter_append]
  rfl

/-- What ends with a slash keeps its steps to itself. -/
theorem steps_append {directory : String}
    (h : directory = "" ∨ hasTrailingSlash directory = true) (path : String) :
    steps (directory ++ path) = steps directory ++ steps path := by
  rcases h with rfl | h
  · rw [String.empty_append]
    rfl
  · obtain ⟨front, hfront⟩ := List.getLast?_eq_some_iff.mp (beq_iff_eq.mp h)
    have hdirectory : directory = String.ofList front ++ "/" := by
      rw [← String.toList_inj, hfront, String.toList_append, String.toList_ofList]
      rfl
    have hself := steps_append_slash (String.ofList front) ""
    rw [String.append_empty, ← hdirectory] at hself
    rw [hdirectory, steps_append_slash, ← hdirectory, hself, List.append_assoc]
    rfl

/-- What may stand behind a path and leads nowhere. -/
def idleEnds : List String := ["/", "/."]

theorem steps_append_idle {last : String} (h : last ∈ idleEnds) (path : String) :
    steps (path ++ last) = steps path := by
  simp only [idleEnds, List.mem_cons, List.not_mem_nil, or_false] at h
  rcases h with rfl | rfl
  · have hslash := steps_append_slash path ""
    rw [String.append_empty] at hslash
    rw [hslash]
    exact List.append_nil _
  · have hslash := steps_append_slash path "."
    rw [String.append_assoc] at hslash
    exact hslash.trans (List.append_nil _)

/-- However many of them stand there, the path has the same steps. -/
theorem steps_append_join {ends : List String} (h : ∀ last ∈ ends, last ∈ idleEnds) (path : String) :
    steps (path ++ String.join ends) = steps path := by
  induction ends generalizing path with
  | nil => rw [String.join_nil, String.append_empty]
  | cons last rest ih =>
    have hrest := ih (fun e he => h e (List.mem_cons_of_mem _ he)) (path ++ last)
    rw [String.join_cons, ← String.append_assoc, hrest]
    exact steps_append_idle (h last List.mem_cons_self) path

/-! ## 2. Stems -/

/-- What stands behind the last point is cut off, unless nothing stands in front of that point. -/
theorem stemOfName_append {name extension : List Char} (hname : name ≠ [])
    (hpoint : '.' ∉ extension) : stemOfName (name ++ '.' :: extension) = name := by
  have hreverse : (name ++ '.' :: extension).reverse = extension.reverse ++ '.' :: name.reverse := by
    rw [List.reverse_append, List.reverse_cons, List.append_assoc]
    rfl
  have hskip : (extension.reverse ++ '.' :: name.reverse).dropWhile (· != '.') =
      '.' :: name.reverse := by
    rw [List.dropWhile_append_of_pos, List.dropWhile_cons_of_neg (by decide)]
    intro c hc
    exact bne_iff_ne.mpr (fun heq => hpoint (heq ▸ List.mem_reverse.mp hc))
  obtain ⟨last, front, hlast⟩ := List.exists_cons_of_ne_nil (List.reverse_ne_nil_iff.mpr hname)
  rw [stemOfName, hreverse, hskip, hlast, ← List.reverse_reverse name, hlast]

/-- The stem of a path is that of its last step. -/
theorem stem_of_steps {path name : String} {front : List String}
    (h : steps path = front ++ [name]) (hup : name ≠ "..") :
    stem path = String.ofList (stemOfName name.toList) := by
  have hlast : ((components path).filter (· ≠ ".")).getLast? = some name := by
    rw [← steps, h, List.getLast?_concat]
  rw [stem, hlast]
  exact if_neg hup

/-! ## 3. Files with an extension -/

theorem toList_fileName (name extension : String) :
    (name ++ "." ++ extension).toList = name.toList ++ '.' :: extension.toList := by
  rw [String.toList_append, String.toList_append, List.append_assoc]
  rfl

/-- Whether a directory, a name and an extension make the path of a file.  The name may have points
anywhere, the extension has none. -/
structure IsFile (directory name extension : String) : Prop where
  directory_ends : directory = "" ∨ hasTrailingSlash directory = true
  name_ne_empty : name ≠ ""
  name_oneStep : '/' ∉ name.toList
  extension_ne_empty : extension ≠ ""
  extension_oneStep : '/' ∉ extension.toList
  extension_last : '.' ∉ extension.toList

namespace IsFile

variable {directory name extension : String}

/-- A file name with an extension has three letters at least, so it is no way to stay or to go up. -/
theorem fileName_ne (h : IsFile directory name extension) {dots : String}
    (hdots : dots.toList.length ≤ 2) : name ++ "." ++ extension ≠ dots := by
  intro heq
  have hname : 0 < name.toList.length := by
    rw [List.length_pos_iff, Ne, String.toList_eq_nil_iff]
    exact h.name_ne_empty
  have hextension : 0 < extension.toList.length := by
    rw [List.length_pos_iff, Ne, String.toList_eq_nil_iff]
    exact h.extension_ne_empty
  rw [← heq, toList_fileName, List.length_append, List.length_cons] at hdots
  omega

/-- **The file name is the last step.** -/
theorem steps_eq (h : IsFile directory name extension) :
    steps (directory ++ name ++ "." ++ extension) = steps directory ++ [name ++ "." ++ extension] := by
  have hpath : directory ++ name ++ "." ++ extension = directory ++ (name ++ "." ++ extension) := by
    simp only [String.append_assoc]
  have hslash : '/' ∉ (name ++ "." ++ extension).toList := by
    rw [toList_fileName, List.mem_append, List.mem_cons]
    rintro (hmem | heq | hmem)
    · exact h.name_oneStep hmem
    · exact absurd heq (by decide)
    · exact h.extension_oneStep hmem
  have hone : steps (name ++ "." ++ extension) = [name ++ "." ++ extension] := by
    rw [steps, components_of_not_mem (h.fileName_ne (by decide)) hslash]
    exact List.filter_cons_of_pos (decide_eq_true (h.fileName_ne (by decide)))
  rw [hpath, steps_append h.directory_ends, hone]

/-- **The stem of a file is its name without the extension**, whatever leads to it and whatever idle
ends stand behind it. -/
theorem stem_eq (h : IsFile directory name extension) {ends : List String}
    (hends : ∀ last ∈ ends, last ∈ idleEnds) :
    stem (directory ++ name ++ "." ++ extension ++ String.join ends) = name := by
  have hsteps := (steps_append_join hends _).trans h.steps_eq
  have hname : name.toList ≠ [] := fun hnil => h.name_ne_empty (String.toList_eq_nil_iff.mp hnil)
  rw [stem_of_steps hsteps (h.fileName_ne (by decide)), toList_fileName,
    stemOfName_append hname h.extension_last, String.ofList_toList]

end IsFile

end Path

/-! ## 4. Lists by their files -/

/-- Whether a path makes a flat list one of the category `name`. -/
structure IsListOf (name path : String) : Prop where
  stem : Path.stem path = name
  /-- What is loaded, if the file can be read, are its lines as those of the category. -/
  load : ∀ (files : FileReader) (dir : DataDirectory), Source.load files dir ⟨path, .list⟩ =
    match dir.read files path with
    | .ok text => .ok (.list name (Text.termLines text))
    | .error cause => .error (.file (dir.join path) cause)
  /-- In the grammar of a run with this list, each of its lines is a branch of one rule, which is that
  of the category unless a category ranked above it lists the line too. -/
  ranked : ∀ (files : FileReader) (config : Config) (g : Generation) (above below : List String),
    ⟨path, .list⟩ ∈ config.sources → config.precedence.names = above ++ name :: below →
      (generate files config).outcome = .ok g →
        ∃ text dynamic, config.dataDirectory.read files path = .ok text ∧
          g.grammar.patterns = [baseRule, commentRule, bracketRule, stringRule] ++ dynamic ++
            [numericRule, fallbackRule] ∧
          ∀ line ∈ Text.termLines text, ∃ r,
            dynamic.filter (fun r => r.hasBranch (lower line)) = [r] ∧
              r.name ∈ (above ++ [name]).map some

theorem isListOf_of_stem {name path : String} (h : Path.stem path = name) : IsListOf name path := by
  refine ⟨h, ?_, ?_⟩
  · intro files dir
    subst h
    rfl
  · intro files config g above below hspec hnames hok
    obtain ⟨hloads, cands, categories, hresolve, hroutes, hpatterns, -⟩ :=
      exists_resolved_of_generate hok
    obtain ⟨s, hload⟩ := hloads _ hspec
    obtain ⟨text, hread, -⟩ := Source.load_eq_ok_iff.mp hload
    refine ⟨text, _, hread, hpatterns, ?_⟩
    intro line hline
    have hterm : config.Routes files name (lower line) :=
      .line ⟨_, hspec, rfl, h.symm, text, hread, rfl⟩ hline
    exact exists_branch_of_resolve hresolve hnames ((hroutes _ _).mp hterm)

/-- **A file names the category of its lines.**  A list in a file that has the name of a category and
an extension is a list of that category, wherever the file is and however many slashes or points stand
behind its path. -/
theorem stem_names_list {directory name extension : String}
    (h : Path.IsFile directory name extension) :
    Path.stem (directory ++ name ++ "." ++ extension) = name ∧
      ∀ ends : List String, (∀ last ∈ ends, last ∈ Path.idleEnds) →
        IsListOf name (directory ++ name ++ "." ++ extension ++ String.join ends) := by
  constructor
  · have hplain : Path.stem (directory ++ name ++ "." ++ extension ++ String.join []) = name :=
      h.stem_eq (by simp)
    rw [String.join_nil, String.append_empty] at hplain
    exact hplain
  · intro ends hends
    exact isListOf_of_stem (h.stem_eq hends)

/-- The file of a hidden name with two points, reached by a detour and with idle ends behind it; and the
list of a run, whose only line is a branch of the rule that the file is named for. -/
theorem stem_names_list_control : ∃ g dynamic r,
    Path.IsFile "words/../" ".keyword.control" "txt" ∧
      Path.stem "words/../.keyword.control.txt//./" = ".keyword.control" ∧
      Path.IsFile "" keywordControl "txt" ∧
      Source.load spawnFiles (.folder "data") ⟨"keyword.control.txt", .list⟩ =
        .ok (.list keywordControl ["Target"]) ∧
      (generate spawnFiles (Config.popfile (.folder "data"))).outcome = .ok g ∧
      g.grammar.patterns = [baseRule, commentRule, bracketRule, stringRule] ++ dynamic ++
        [numericRule, fallbackRule] ∧
      dynamic.filter (fun r => r.hasBranch (lower "Target")) = [r] ∧ r.name = some keywordControl := by
  have hhidden : Path.IsFile "words/../" ".keyword.control" "txt" := by
    constructor <;> decide +kernel
  have hcontrol : Path.IsFile "" keywordControl "txt" := by
    constructor <;> decide +kernel
  have hdetour := ((stem_names_list hhidden).2 ["/", "/.", "/"] (by decide)).stem
  have hlist := (stem_names_list hcontrol).2 [] (by decide)
  have hpath : "" ++ keywordControl ++ "." ++ "txt" ++ String.join [] = "keyword.control.txt" := by
    decide +kernel
  rw [hpath] at hlist
  have hlines : Text.termLines "Target\n" = ["Target"] := by decide +kernel
  have hload : Source.load spawnFiles (.folder "data") ⟨"keyword.control.txt", .list⟩ =
      .ok (.list keywordControl (Text.termLines "Target\n")) := hlist.load spawnFiles (.folder "data")
  rw [hlines] at hload
  have hdata : SpawnData spawnFiles (.folder "data") := ⟨rfl, rfl, rfl⟩
  obtain ⟨g, hok⟩ := hdata.outcome_generate
  obtain ⟨text, dynamic, htext, hpatterns, hbranches⟩ :=
    hlist.ranked spawnFiles _ g [] _ (.head _) rfl hok
  cases htext
  rw [hlines] at hbranches
  obtain ⟨r, honly, hr⟩ := hbranches "Target" (.head _)
  exact ⟨g, dynamic, r, hhidden, hdetour, hcontrol, hload, hok, hpatterns, honly,
    List.mem_singleton.mp hr⟩

end KeywordGrammar
