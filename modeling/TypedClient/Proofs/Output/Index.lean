import TypedClient.Proofs.Draft.Pipeline
import TypedClient.Proofs.TypeScript.Literal

/-!
# What the index exports

The index is put together from lines that export names of other files. `isIndex_indexText` says
which: the names of the categories of the index, one category after the other, each name from the
file of its own. This holds whatever the directories are called.

Where the names of the directories need no escapes the lines can be read back. The text makes up
tokens, and the tokens make up statements that export names; `exports?_indexText` says that these
are the same names.
-/

namespace TypedClient.TypeScript

/-- A category of files. -/
inductive Category where
  | core
  | models
  | schemas
  | services
deriving DecidableEq, Repr

namespace Category

/-- The categories in the order of the index. -/
def all : List Category :=
  [.core, .models, .schemas, .services]

/-- Whether a category is written. -/
def isIn (exports : Exports) : Category → Bool
  | .core => exports.core
  | .models => exports.models
  | .schemas => exports.schemas
  | .services => exports.services

/-- The categories that are written. -/
def enabled (exports : Exports) : List Category :=
  all.filter (fun k => k.isIn exports)

/-- The directory of a category as seen from the index. -/
def directory (dirs : Directories) : Category → String
  | .core => dirs.core
  | .models => dirs.models
  | .schemas => dirs.schemas
  | .services => dirs.services

/-- The lines of the index for a category. -/
def lines (choices : Choices) (dirs : Directories) (c : Client) : Category → List String
  | .core => coreExports dirs.core
  | .models => c.models.map (modelExport choices dirs.models)
  | .schemas => c.schemas.map (schemaExport dirs.schemas)
  | .services => c.services.map (serviceExport dirs.services)

/-- The names that a category exports, each with its file. -/
def names (c : Client) : Category → List (String × String)
  | .core =>
      [("ApiError", "ApiError"), ("CancelablePromise", "CancelablePromise"),
       ("CancelError", "CancelablePromise"), ("OpenAPI", "OpenAPI"), ("OpenAPIConfig", "OpenAPI")]
  | .models => c.models.map (fun m => (m.name, m.name))
  | .schemas => c.schemas.map (fun s => ("$" ++ s.name, "$" ++ s.name))
  | .services => c.services.map (fun s => (s.name ++ "Service", s.name ++ "Service"))

/-- The names that a category exports, each with what an import says of its file. -/
def exported (dirs : Directories) (c : Client) (k : Category) : List (String × String) :=
  (k.names c).map (fun e => (e.1, k.directory dirs ++ "/" ++ e.2))

end Category

/-- A line of the index, with the names that it exports one by one. -/
structure ExportLine where
  /-- What the line does with the names. -/
  keyword : String
  /-- The names. -/
  names : List String
  /-- The directory of the file that has them. -/
  directory : String
  /-- That file, without its extension. -/
  file : String

namespace ExportLine

/-- The text of a line. -/
def text (l : ExportLine) : String :=
  exportLine l.keyword (", ".intercalate l.names) l.directory l.file

/-- The names that a line exports, each with what the line says of its file. -/
def exported (l : ExportLine) : List (String × String) :=
  l.names.map (fun name => (name, l.directory ++ "/" ++ l.file))

/-- Whether a line exports values, or types alone. -/
def Exports (l : ExportLine) : Prop :=
  l.keyword = "export" ∨ l.keyword = "export type"

end ExportLine

/-- The lines of the index for a category, name by name. -/
def Category.exportLines (choices : Choices) (dirs : Directories) (c : Client) :
    Category → List ExportLine
  | .core =>
      [⟨"export", ["ApiError"], dirs.core, "ApiError"⟩,
       ⟨"export", ["CancelablePromise", "CancelError"], dirs.core, "CancelablePromise"⟩,
       ⟨"export", ["OpenAPI"], dirs.core, "OpenAPI"⟩,
       ⟨"export type", ["OpenAPIConfig"], dirs.core, "OpenAPI"⟩]
  | .models => c.models.map (fun m =>
      ⟨if isEnum choices m then "export" else "export type", [m.name], dirs.models, m.name⟩)
  | .schemas => c.schemas.map (fun s =>
      ⟨"export", ["$" ++ s.name], dirs.schemas, "$" ++ s.name⟩)
  | .services => c.services.map (fun s =>
      ⟨"export", [s.name ++ "Service"], dirs.services, s.name ++ "Service"⟩)

/-- A text is an index of exported names: behind the header it has sections of lines, which export
these names in this order and nothing else. -/
def IsIndex (text : String) (exported : List (String × String)) : Prop :=
  ∃ sections : List (List ExportLine),
    text = header ++
      String.join (sections.map (fun ls => exportSection true (ls.map ExportLine.text))) ∧
    (∀ ls ∈ sections, ∀ l ∈ ls, l.Exports) ∧
    sections.flatten.flatMap ExportLine.exported = exported

/-- An index with a section for each of some categories. -/
def indexText (choices : Choices) (dirs : Directories) (c : Client) (categories : List Category) :
    String :=
  header ++ String.join (categories.map (fun k => exportSection true (k.lines choices dirs c)))

/-- The index has a section for each category that is written. -/
theorem indexFile_eq_indexText (choices : Choices) (exports : Exports) (dirs : Directories)
    (c : Client) :
    indexFile choices exports dirs c = indexText choices dirs c (Category.enabled exports) := by
  have hwanted : ∀ ks : List Category,
      String.join ((ks.filter (fun k => k.isIn exports)).map
        (fun k => exportSection true (k.lines choices dirs c))) =
      String.join (ks.map (fun k => exportSection (k.isIn exports) (k.lines choices dirs c))) := by
    intro ks
    induction ks with
    | nil => rfl
    | cons k ks ih =>
        rw [List.filter_cons, List.map_cons, String.join_cons, ← ih]
        split
        case isTrue hk => rw [List.map_cons, String.join_cons, hk]
        case isFalse hk => simp [exportSection, hk]
  rw [indexText, Category.enabled, hwanted]
  simp [indexFile, headed, Category.all, Category.isIn, Category.lines, String.join_cons,
    String.append_assoc]

/-! ## The lines -/

section Lines

variable (choices : Choices) (dirs : Directories) (c : Client)

/-- The text of a line that exports one name. -/
theorem ExportLine.text_singleton (keyword name directory file : String) :
    (⟨keyword, [name], directory, file⟩ : ExportLine).text =
      exportLine keyword name directory file := by
  rw [text, String.intercalate_singleton]

/-- The lines of a category are texts of lines that export its names. -/
theorem Category.lines_eq (k : Category) :
    k.lines choices dirs c = (k.exportLines choices dirs c).map ExportLine.text := by
  cases k with
  | core =>
      have hboth : ", ".intercalate ["CancelablePromise", "CancelError"] =
          "CancelablePromise, CancelError" := by decide
      simp only [lines, coreExports, exportLines, List.map_cons, List.map_nil, ExportLine.text,
        String.intercalate_singleton, hboth]
  | _ =>
      simp only [lines, exportLines, List.map_map]
      exact List.map_congr_left (fun _ _ => (ExportLine.text_singleton ..).symm)

theorem Category.exports_of_mem_exportLines (k : Category) :
    ∀ l ∈ k.exportLines choices dirs c, l.Exports := by
  cases k with
  | core => simp [exportLines, ExportLine.Exports]
  | models =>
      refine List.forall_mem_map.2 (fun m _ => ?_)
      unfold ExportLine.Exports
      split
      · exact .inl rfl
      · exact .inr rfl
  | _ => exact List.forall_mem_map.2 (fun _ _ => .inl rfl)

theorem Category.exported_exportLines (k : Category) :
    (k.exportLines choices dirs c).flatMap ExportLine.exported = k.exported dirs c := by
  cases k with
  | core => simp [exportLines, ExportLine.exported, exported, names, directory]
  | _ => simp [exportLines, ExportLine.exported, exported, names, directory, List.flatMap_map,
      ← List.map_eq_flatMap, Function.comp_def]

/-- The lines of an index export the names of its categories. -/
theorem isIndex_indexText (categories : List Category) :
    IsIndex (indexText choices dirs c categories)
      (categories.flatMap (Category.exported dirs c)) := by
  refine ⟨categories.map (Category.exportLines choices dirs c), ?_, ?_, ?_⟩
  · simp only [indexText, Category.lines_eq, List.map_map]
    rfl
  · exact List.forall_mem_map.2 (fun k _ => k.exports_of_mem_exportLines choices dirs c)
  · rw [← List.flatMap_def, List.flatMap_assoc]
    exact List.flatMap_congr (fun k _ => k.exported_exportLines choices dirs c)

end Lines

/-! ## Reading exports -/

/-- What is read of a statement that exports names of another file. -/
inductive Clause where
  | start
  /-- Behind `export`. -/
  | keyword
  /-- Where a list of names has to start. -/
  | brace
  /-- Where a name has to come. -/
  | name (names : List String)
  /-- Behind a name. -/
  | more (names : List String)
  /-- Behind the list of names. -/
  | names (names : List String)
  /-- Where the other file has to be given. -/
  | place (names : List String)
  /-- Where the statement has to end. -/
  | stop (names : List String) (place : String)

namespace Clause

/-- One more token, with the names that it exports. -/
def step : Clause → Token → Option (List (String × String) × Clause)
  | start, .word w => if w = "export" then some ([], .keyword) else none
  | keyword, .word w => if w = "type" then some ([], .brace) else none
  | keyword, .mark m => if m = '\x7b' then some ([], .name []) else none
  | brace, .mark m => if m = '\x7b' then some ([], .name []) else none
  | name ns, .word w => some ([], .more (ns ++ [w]))
  | more ns, .mark m =>
      if m = ',' then some ([], .name ns)
      else if m = '\x7d' then some ([], .names ns) else none
  | names ns, .word w => if w = "from" then some ([], .place ns) else none
  | place ns, .text t => some ([], .stop ns (String.ofList t.toList.tail.dropLast))
  | stop ns t, .mark m => if m = ';' then some (ns.map (fun n => (n, t)), .start) else none
  | _, _ => none

/-- The names that tokens export; only whole statements export any. -/
def exportsFrom : Clause → List Token → Option (List (String × String))
  | start, [] => some []
  | _, [] => none
  | q, t :: ts => (q.step t).bind (fun r => (exportsFrom r.2 ts).map (r.1 ++ ·))

theorem exportsFrom_cons (q : Clause) (t : Token) (ts : List Token) :
    q.exportsFrom (t :: ts) =
      (q.step t).bind (fun r => (r.2.exportsFrom ts).map (r.1 ++ ·)) := by
  cases q <;> rfl

/-- A token that ends no statement. -/
theorem exportsFrom_of_step {q q' : Clause} {t : Token} (h : q.step t = some ([], q'))
    (ts : List Token) : q.exportsFrom (t :: ts) = q'.exportsFrom ts := by
  rw [exportsFrom_cons, h]
  simp

end Clause

/-- The names that a text exports, each with what it says of the other file. -/
def exports? (s : String) : Option (List (String × String)) :=
  (tokens? s).bind Clause.start.exportsFrom

/-- Whether a text is read as whole statements that export names. -/
def Reads (s : String) (exported : List (String × String)) : Prop :=
  ∃ ts, Scan.nothing.run s.toList = some (ts, .nothing) ∧ ∀ us,
    Clause.start.exportsFrom (ts ++ us) = (Clause.start.exportsFrom us).map (exported ++ ·)

section Reads

variable {s t : String} {xs ys : List (String × String)}

theorem reads_of_blank (h : Scan.nothing.run s.toList = some ([], .nothing)) : Reads s [] :=
  ⟨[], h, fun us => by simp⟩

theorem Reads.append (hs : Reads s xs) (ht : Reads t ys) : Reads (s ++ t) (xs ++ ys) := by
  obtain ⟨ts, hts, hxs⟩ := hs
  obtain ⟨us, hus, hys⟩ := ht
  refine ⟨ts ++ us, ?_, fun vs => ?_⟩
  · rw [String.toList_append, Scan.run_append, hts, Option.bind_some, hus]
    rfl
  · rw [List.append_assoc, hxs, hys, Option.map_map]
    exact congrArg (Option.map · _) (funext fun rest => (List.append_assoc xs ys rest).symm)

theorem reads_join {α : Type} {text : α → String} {exported : α → List (String × String)}
    {items : List α} (h : ∀ a ∈ items, Reads (text a) (exported a)) :
    Reads (String.join (items.map text)) (items.flatMap exported) := by
  induction items with
  | nil => exact reads_of_blank rfl
  | cons a items ih =>
      rw [List.forall_mem_cons] at h
      rw [List.map_cons, String.join_cons, List.flatMap_cons]
      exact h.1.append (ih h.2)

/-- What is read of a text that is whole statements. -/
theorem Reads.exports? (h : Reads s xs) : exports? s = some xs := by
  obtain ⟨ts, hts, hxs⟩ := h
  have hall := hxs []
  rw [List.append_nil] at hall
  rw [TypeScript.exports?, tokens?_of_run hts, Option.bind_some, hall]
  simp [Clause.exportsFrom]

/-- Whether the characters of a text stand for themselves between quotes. -/
def IsPlain (s : String) : Prop :=
  ∀ c ∈ s.toList, Scan.isPlain '\x27' c = true

instance (s : String) : Decidable (IsPlain s) :=
  decidable_of_iff (s.toList.all (Scan.isPlain '\x27') = true) List.all_eq_true

theorem IsPlain.append (hs : IsPlain s) (ht : IsPlain t) : IsPlain (s ++ t) := by
  intro c hc
  rw [String.toList_append, List.mem_append] at hc
  exact hc.elim (hs c) (ht c)

/-- A text in front of a delimiter leaves nothing unfinished. -/
theorem run_ended {d : String} {ts us : List Token} (hs : tokens? s = some ts)
    (hd : Delimits d us) :
    Scan.nothing.run (s ++ d).toList = some (ts ++ us, .nothing) := by
  obtain ⟨⟨finished, q⟩, hrun, hs⟩ := Option.bind_eq_some_iff.1 hs
  obtain ⟨last, hlast, rfl⟩ := Option.map_eq_some_iff.1 hs
  obtain ⟨hrest, hhead⟩ := hd
  have hnext : q.run d.toList = some (last ++ us, .nothing) := by
    cases q with
    | nothing =>
        cases hlast
        exact hrest
    | word seen =>
        cases hlast
        cases hlist : d.toList with
        | nil => simp [hlist] at hhead
        | cons c cs =>
            rw [hlist] at hrest hhead
            have hword : isWordPart c = false := by simpa using hhead
            rw [Scan.run] at hrest ⊢
            obtain ⟨r, hfirst, hrun⟩ := Option.bind_eq_some_iff.1 hrest
            obtain ⟨r', hrun, heq⟩ := Option.map_eq_some_iff.1 hrun
            have hstep : (Scan.word seen).step c =
                some (.word (String.ofList seen) :: r.1, r.2) := by
              have hfirst : Scan.first c = some r := hfirst
              simp [Scan.step, hword, hfirst]
            rw [Prod.mk.injEq] at heq
            rw [hstep, Option.bind_some, hrun, Option.map_some, heq.2, List.cons_append, heq.1]
            rfl
    | _ => cases hlast
  rw [String.toList_append, Scan.run_append, hrun, Option.bind_some, hnext, List.append_assoc]
  rfl

/-- A line that exports names is read. -/
theorem reads_exportLine {keyword written directory file : String} {ts : List Token}
    (names : List String) (hkeyword : keyword = "export" ∨ keyword = "export type")
    (hwritten : tokens? written = some ts)
    (hnames : ∀ us, (Clause.name []).exportsFrom (ts ++ .mark '\x7d' :: us) =
      (Clause.names names).exportsFrom us)
    (hdirectory : IsPlain directory) (hfile : IsPlain file) :
    Reads (exportLine keyword written directory file)
      (names.map (fun name => (name, directory ++ "/" ++ file))) := by
  obtain ⟨start, hstart, hopen⟩ : ∃ start,
      Scan.nothing.run (keyword ++ " \x7b ").toList = some (start, .nothing) ∧
      ∀ us, Clause.start.exportsFrom (start ++ us) = (Clause.name []).exportsFrom us := by
    rcases hkeyword with rfl | rfl
    · refine ⟨[.word "export", .mark '\x7b'], by decide +kernel, fun us => ?_⟩
      exact (Clause.exportsFrom_of_step rfl _).trans (Clause.exportsFrom_of_step rfl _)
    · refine ⟨[.word "export", .word "type", .mark '\x7b'], by decide +kernel, fun us => ?_⟩
      exact (Clause.exportsFrom_of_step rfl _).trans
        ((Clause.exportsFrom_of_step rfl _).trans (Clause.exportsFrom_of_step rfl _))
  have hlist := run_ended hwritten
    (by decide : Delimits " \x7d from " [.mark '\x7d', .word "from"])
  have hend : Scan.nothing.run ";\n".toList = some ([.mark ';'], .nothing) := by decide
  have hline : (exportLine keyword written directory file).toList =
      (keyword ++ " \x7b ").toList ++ ((written ++ " \x7d from ").toList ++
        ('\x27' :: (directory ++ "/" ++ file).toList ++ ['\x27'] ++ ";\n".toList)) := by
    simp [exportLine]
  have hslash : IsPlain "/" := by decide
  have hplain := (hdirectory.append hslash).append hfile
  generalize directory ++ "/" ++ file = place at hline hplain
  have hplace := Scan.run_text (.inl rfl) (Scan.stays_plain hplain)
  refine ⟨start ++ (ts ++ [.mark '\x7d', .word "from"] ++
    ([.text (String.ofList ('\x27' :: place.toList ++ ['\x27']))] ++ [.mark ';'])), ?_,
    fun us => ?_⟩
  · rw [hline, Scan.run_append, hstart, Option.bind_some, Scan.run_append, hlist, Option.bind_some,
      Scan.run_append, hplace, Option.bind_some, hend]
    rfl
  · have hrest : start ++ (ts ++ [.mark '\x7d', .word "from"] ++
        ([.text (String.ofList ('\x27' :: place.toList ++ ['\x27']))] ++ [.mark ';'])) ++ us =
        start ++ (ts ++ .mark '\x7d' :: .word "from" ::
          .text (String.ofList ('\x27' :: place.toList ++ ['\x27'])) :: .mark ';' :: us) := by simp
    have hinner : String.ofList (String.ofList ('\x27' :: place.toList ++
        ['\x27'])).toList.tail.dropLast = place := by simp
    rw [hrest, hopen, hnames, Clause.exportsFrom_of_step rfl, Clause.exportsFrom_of_step rfl,
      Clause.exportsFrom_cons, hinner]
    simp [Clause.step]

/-- A word stands for itself between quotes. -/
theorem isPlain_of_isWord (h : isWord s = true) : IsPlain s := by
  simp only [isWord, Bool.and_eq_true, List.all_eq_true] at h
  intro c hc
  have hpart := h.2 c hc
  simp only [Scan.isPlain, Bool.and_eq_true, decide_eq_true_eq]
  refine ⟨⟨⟨?_, ?_⟩, ?_⟩, ?_⟩ <;> (rintro rfl; exact absurd hpart (by decide))

/-- A line that exports one name is read. -/
theorem reads_exportLine_word {keyword name directory file : String}
    (hkeyword : keyword = "export" ∨ keyword = "export type") (hname : isWord name = true)
    (hdirectory : IsPlain directory) (hfile : isWord file = true) :
    Reads (exportLine keyword name directory file) [(name, directory ++ "/" ++ file)] := by
  refine reads_exportLine [name] hkeyword (tokens?_word hname) (fun us => ?_) hdirectory
    (isPlain_of_isWord hfile)
  exact (Clause.exportsFrom_of_step rfl _).trans (Clause.exportsFrom_of_step rfl _)

/-- A section is read when its lines are. -/
theorem Reads.exportSection {lines : List String} (h : Reads (String.join lines) xs) :
    Reads (exportSection true lines) xs := by
  cases lines with
  | nil => exact h
  | cons line lines => exact (reads_of_blank (s := "\n") (by decide)).append h

end Reads

namespace Category

variable {dirs : Directories} {c : Client}

/-- The lines for the core files are read. -/
theorem reads_core (hdirectory : IsPlain dirs.core) :
    Reads (String.join (coreExports dirs.core)) (exported dirs c .core) := by
  have hboth : Reads (exportLine "export" "CancelablePromise, CancelError" dirs.core
      "CancelablePromise") [("CancelablePromise", dirs.core ++ "/" ++ "CancelablePromise"),
        ("CancelError", dirs.core ++ "/" ++ "CancelablePromise")] := by
    have hwritten : tokens? "CancelablePromise, CancelError" =
        some [.word "CancelablePromise", .mark ',', .word "CancelError"] := by decide +kernel
    refine reads_exportLine ["CancelablePromise", "CancelError"] (.inl rfl) hwritten (fun us => ?_)
      hdirectory (isPlain_of_isWord (by decide))
    exact (Clause.exportsFrom_of_step rfl _).trans ((Clause.exportsFrom_of_step rfl _).trans
      ((Clause.exportsFrom_of_step rfl _).trans (Clause.exportsFrom_of_step rfl _)))
  have hone : ∀ keyword name file, keyword = "export" ∨ keyword = "export type" →
      isWord name = true → isWord file = true → Reads (exportLine keyword name dirs.core file)
        [(name, dirs.core ++ "/" ++ file)] :=
    fun _ _ _ hkeyword hname hfile => reads_exportLine_word hkeyword hname hdirectory hfile
  have hall := (hone "export" "ApiError" "ApiError" (.inl rfl) (by decide) (by decide)).append
    (hboth.append ((hone "export" "OpenAPI" "OpenAPI" (.inl rfl) (by decide) (by decide)).append
      (hone "export type" "OpenAPIConfig" "OpenAPI" (.inr rfl) (by decide) (by decide))))
  simpa [coreExports, exported, names, directory, String.join_cons] using hall

/-- The section of a category is read. -/
theorem reads_section (h : c.WellNamed) (choices : Choices) {k : Category}
    (hdirectory : IsPlain (k.directory dirs)) :
    Reads (exportSection true (k.lines choices dirs c)) (k.exported dirs c) := by
  -- each item of a category has one line that exports its own name
  have hitems : ∀ {α : Type} (items : List α) (keyword name : α → String),
      (∀ a ∈ items, keyword a = "export" ∨ keyword a = "export type") →
      (∀ a ∈ items, isWord (name a) = true) →
      Reads (String.join (items.map (fun a =>
        exportLine (keyword a) (name a) (k.directory dirs) (name a))))
        ((items.map (fun a => (name a, name a))).map
          (fun e => (e.1, k.directory dirs ++ "/" ++ e.2))) := by
    intro α items keyword name hkeyword hname
    have hjoin := reads_join (fun a ha =>
      reads_exportLine_word (hkeyword a ha) (hname a ha) hdirectory (hname a ha))
    rw [← List.map_eq_flatMap] at hjoin
    rw [List.map_map]
    exact hjoin
  refine Reads.exportSection ?_
  cases k with
  | core => exact reads_core hdirectory
  | models =>
      refine hitems c.models (fun m => if isEnum choices m then "export" else "export type")
        Model.name (fun m _ => ?_) (fun m hm => isWord_of_isTypeName (h.model_name m hm))
      split
      · exact .inl rfl
      · exact .inr rfl
  | schemas =>
      refine hitems c.schemas (fun _ => "export") (fun s => "$" ++ s.name) (fun _ _ => .inl rfl)
        (fun s hs => ?_)
      have hword := isWord_of_isTypeName (h.schema_name s hs)
      simp only [isWord, Bool.and_eq_true, List.all_eq_true] at hword
      exact isWord_of_toList (String.toList_append ..) (List.forall_mem_cons.2 ⟨by decide, hword.2⟩)
  | services =>
      exact hitems c.services (fun _ => "export") (fun s => s.name ++ "Service")
        (fun _ _ => .inl rfl)
        (fun s hs => isWord_of_isTypeName (Naming.isTypeName_class (h.service_name s hs)))

end Category

/-- An index exports the names of its categories, each from the file of its own. -/
theorem exports?_indexText {dirs : Directories} {c : Client} (h : c.WellNamed) (choices : Choices)
    {categories : List Category} (hdirs : ∀ k ∈ categories, IsPlain (k.directory dirs)) :
    exports? (indexText choices dirs c categories) =
      some (categories.flatMap (Category.exported dirs c)) := by
  have hheader : Reads header [] := reads_of_blank (by decide +kernel)
  have hsections := reads_join (fun k hk => Category.reads_section h choices (hdirs k hk))
  exact (hheader.append hsections).exports?

example : exports? "export type \x7b A \x7d from './a';\nexport \x7b B, C \x7d from './b';\n" =
    some [("A", "./a"), ("B", "./b"), ("C", "./b")] := by decide +kernel

end TypedClient.TypeScript
