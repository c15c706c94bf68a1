import Mathlib.Data.List.Perm.Basic
import TypedClient.Command.Settings

/-!
# Settings and the order of a configuration file

The keys of a configuration file are visited in any order. `merge_order_iff` says exactly when the
order makes no difference: no order gives settings at all, or the keys that mean one setting which
no flag gives have values that come to the same. Several keys can mean one setting, because case,
dashes and underscores do not count and some settings have a second name.

Settings are compared field by field. `setting` reads a field, `Field.put` writes it, and what a
list of entries, the flags and the checks do is said of each field alone.
-/

namespace TypedClient.Settings

namespace Field

/-- What a setting is. -/
def Range : Field → Type
  | text _ => String
  | switch _ => Bool
  | tags _ => List String

/-- Settings with one of them written. -/
def put : (f : Field) → f.Range → Settings → Settings
  | text f, x, s => f.update (fun _ => x) s
  | switch f, b, s => f.set b s
  | tags f, xs, s => f.update (fun _ => xs) s

/-- What the data of a configuration file says of a setting. -/
def read : (f : Field) → Yaml.Datum → Except String f.Range
  | text _, v => readText v
  | switch _, v => readSwitch v
  | tags _, v => (readTags v).map cleanTags

/-- What the flags say of a setting. -/
def given (g : Command.Given) : (f : Field) → Option f.Range
  | text f => (g.text? f.name).map Text.trim
  | switch f => g.switch? f.name
  | tags f => (g.list? f.name).map cleanTags

/-- What a setting comes to: texts without blanks around them, tags each once, and the name of the
library in lower case, where none means the first. -/
def settled : (f : Field) → f.Range → f.Range
  | text .client, x =>
      if Text.lower (Text.trim x) = "" then TypeScript.Transport.fetch.label
      else Text.lower (Text.trim x)
  | text _, x => Text.trim x
  | switch _, b => b
  | tags _, xs => cleanTags xs

theorem mem_all (f : Field) : f ∈ all := by
  rcases f with f | f | f <;> cases f <;> decide

end Field

/-- One of the settings. -/
def setting (s : Settings) : (f : Field) → f.Range
  | .text .input => s.input
  | .text .output => s.output
  | .text .outputCore => s.outputCore
  | .text .outputModels => s.outputModels
  | .text .outputSchemas => s.outputSchemas
  | .text .outputServices => s.outputServices
  | .text .client => s.client
  | .text .request => s.request
  | .switch .useOptions => s.useOptions
  | .switch .useUnionTypes => s.useUnionTypes
  | .switch .exportCore => s.exportCore
  | .switch .exportServices => s.exportServices
  | .switch .exportModels => s.exportModels
  | .switch .exportSchemas => s.exportSchemas
  | .switch .dryRun => s.dryRun
  | .switch .force => s.force
  | .switch .verbose => s.verbose
  | .tags .includeTags => s.includeTags
  | .tags .excludeTags => s.excludeTags

variable {s t : Settings} {f f' : Field} {g : Command.Given}

/-- Settings are all of their fields and the file they come from. -/
theorem ext_setting (hpath : s.configPath = t.configPath) (h : ∀ f, s.setting f = t.setting f) :
    s = t := by
  cases s
  cases t
  rw [Settings.mk.injEq]
  exact ⟨h (.text .input), h (.text .output), h (.text .outputCore), h (.text .outputModels),
    h (.text .outputSchemas), h (.text .outputServices), h (.text .client), h (.text .request),
    h (.switch .useOptions), h (.switch .useUnionTypes), h (.switch .exportCore),
    h (.switch .exportServices), h (.switch .exportModels), h (.switch .exportSchemas),
    h (.tags .includeTags), h (.tags .excludeTags), hpath, h (.switch .dryRun),
    h (.switch .force), h (.switch .verbose)⟩

@[simp] theorem setting_put_self (f : Field) (x : f.Range) (s : Settings) :
    (f.put x s).setting f = x := by
  rcases f with f | f | f <;> cases f <;> rfl

theorem setting_put_of_ne (h : f ≠ f') (x : f.Range) (s : Settings) :
    (f.put x s).setting f' = s.setting f' := by
  rcases f with f | f | f <;> rcases f' with f' | f' | f' <;> cases f <;> cases f' <;> try rfl
  -- only the pairs of one field with itself are left
  all_goals exact absurd rfl h

@[simp] theorem configPath_put (f : Field) (x : f.Range) (s : Settings) :
    (f.put x s).configPath = s.configPath := by
  rcases f with f | f | f <;> cases f <;> rfl

/-! ## The entries of the file -/

/-- The setting that an entry of a configuration file gives, if it gives one. -/
def assignment? (e : String × Yaml.Datum) : Option ((f : Field) × f.Range) :=
  (Field.ofKey? e.1).bind (fun f => (f.read e.2).toOption.map (Sigma.mk f))

/-- Settings after assignments in turn. -/
def assignAll (s : Settings) (as : List ((f : Field) × f.Range)) : Settings :=
  as.foldl (fun s a => a.1.put a.2 s) s

theorem apply_eq (f : Field) (v : Yaml.Datum) (s : Settings) :
    f.apply v s = (f.read v).map (fun x => f.put x s) := by
  cases f with
  | text f => cases hread : readText v <;> simp [Field.apply, Field.read, hread] <;> rfl
  | switch f => cases hread : readSwitch v <;> simp [Field.apply, Field.read, hread] <;> rfl
  | tags f => cases hread : readTags v <;> simp [Field.apply, Field.read, hread] <;> rfl

/-- An entry either gives a setting or is refused. -/
theorem applyEntry_cases (path : String) (s : Settings) (e : String × Yaml.Datum) :
    (∃ a, assignment? e = some a ∧ applyEntry path s e = .ok (a.1.put a.2 s)) ∨
      assignment? e = none ∧ ∃ words, applyEntry path s e = .error (.usage words) := by
  obtain ⟨key, v⟩ := e
  unfold applyEntry assignment?
  dsimp only
  cases Field.ofKey? key with
  | none => exact .inr ⟨rfl, _, rfl⟩
  | some f =>
      simp only [apply_eq, Option.bind_some]
      cases f.read v with
      | error words => exact .inr ⟨rfl, _, rfl⟩
      | ok x => exact .inl ⟨⟨f, x⟩, rfl, rfl⟩

/-- The entries of a file give their settings in turn, unless one of them is refused. -/
theorem applyEntries_cases (path : String) (s : Settings) (entries : List (String × Yaml.Datum)) :
    (∀ e ∈ entries, (assignment? e).isSome) ∧
        applyEntries path s entries = .ok (s.assignAll (entries.filterMap assignment?)) ∨
      (¬ ∀ e ∈ entries, (assignment? e).isSome) ∧
        ∃ words, applyEntries path s entries = .error (.usage words) := by
  induction entries generalizing s with
  | nil => exact .inl ⟨fun e he => (nomatch he), rfl⟩
  | cons e rest ih =>
      rw [applyEntries, List.foldlM_cons]
      rcases applyEntry_cases path s e with ⟨a, ha, hok⟩ | ⟨hnone, words, herr⟩
      · simp only [List.forall_mem_cons, ha, Option.isSome_some, true_and,
          List.filterMap_cons_some ha, hok]
        exact ih (a.1.put a.2 s)
      · refine .inr ⟨fun h => ?_, words, by rw [herr]; rfl⟩
        simpa [hnone] using h e List.mem_cons_self

/-- After assignments a field has a value that was assigned to it, or none was and it is as
before. -/
theorem setting_assignAll (s : Settings) (as : List ((f : Field) × f.Range)) (f : Field) :
    (⟨f, (s.assignAll as).setting f⟩ : (f : Field) × f.Range) ∈ as ∨
      (∀ x, (⟨f, x⟩ : (f : Field) × f.Range) ∉ as) ∧
        (s.assignAll as).setting f = s.setting f := by
  induction as generalizing s with
  | nil => exact .inr ⟨fun _ => List.not_mem_nil, rfl⟩
  | cons a rest ih =>
      obtain ⟨f', x'⟩ := a
      show _ ∨ _ ∧ ((f'.put x' s).assignAll rest).setting f = s.setting f
      rcases ih (f'.put x' s) with hmem | ⟨hnone, hsame⟩
      · exact .inl (List.mem_cons_of_mem _ hmem)
      · by_cases heq : f' = f
        · subst heq
          refine .inl ?_
          show (⟨f', ((f'.put x' s).assignAll rest).setting f'⟩ : (f : Field) × f.Range) ∈ _
          rw [hsame, setting_put_self]
          exact List.mem_cons_self
        · refine .inr ⟨fun x hx => ?_, by rw [hsame, setting_put_of_ne heq]⟩
          rcases List.mem_cons.1 hx with hx | hx
          · cases hx
            exact heq rfl
          · exact hnone x hx

/-- The last assignment to a field counts. -/
theorem setting_assignAll_concat (s : Settings) (as : List ((f : Field) × f.Range)) (f : Field)
    (x : f.Range) : (s.assignAll (as ++ [⟨f, x⟩])).setting f = x := by
  rw [assignAll, List.foldl_append]
  exact setting_put_self f x _

@[simp] theorem configPath_assignAll (s : Settings) (as : List ((f : Field) × f.Range)) :
    (s.assignAll as).configPath = s.configPath := by
  induction as generalizing s with
  | nil => rfl
  | cons a rest ih => exact (ih _).trans (configPath_put a.1 a.2 s)

/-! ## Flags and checks -/

/-- Settings with what the flags say of one of them. -/
def putGiven (g : Command.Given) (s : Settings) (f : Field) : Settings :=
  (f.given g).elim s (fun x => f.put x s)

theorem putGiven_text (g : Command.Given) (s : Settings) (f : TextField) :
    putGiven g s (.text f) = match g.text? f.name with
      | some v => f.update (fun _ => Text.trim v) s
      | none => s := by
  show ((g.text? f.name).map Text.trim).elim s (fun x => f.update (fun _ => x) s) = _
  cases g.text? f.name <;> rfl

theorem putGiven_switch (g : Command.Given) (s : Settings) (f : SwitchField) :
    putGiven g s (.switch f) = match g.switch? f.name with
      | some b => f.set b s
      | none => s := by
  show (g.switch? f.name).elim s (fun b => f.set b s) = _
  cases g.switch? f.name <;> rfl

theorem putGiven_tags (g : Command.Given) (s : Settings) (f : TagsField) :
    putGiven g s (.tags f) = match g.list? f.name with
      | some tags => f.update (fun _ => cleanTags tags) s
      | none => s := by
  show ((g.list? f.name).map cleanTags).elim s (fun xs => f.update (fun _ => xs) s) = _
  cases g.list? f.name <;> rfl

/-- The flags are three lists of one and the same step. -/
theorem applyFlags_eq (g : Command.Given) (s : Settings) :
    s.applyFlags g = Field.all.foldl (putGiven g) s := by
  rw [Field.all, List.foldl_append, List.foldl_append, List.foldl_map, List.foldl_map,
    List.foldl_map]
  simp only [putGiven_text, putGiven_switch, putGiven_tags]
  rfl

/-- A flag wins over what is there. -/
theorem setting_putGiven (g : Command.Given) (s : Settings) (f' : Field) (f : Field) :
    (putGiven g s f').setting f =
      if f' = f then (f.given g).getD (s.setting f) else s.setting f := by
  unfold putGiven
  by_cases heq : f' = f
  · subst heq
    rw [if_pos rfl]
    cases f'.given g with
    | none => rfl
    | some x => exact setting_put_self f' x s
  · rw [if_neg heq]
    cases f'.given g with
    | none => rfl
    | some x => exact setting_put_of_ne heq x s

theorem setting_applyFlags (g : Command.Given) (s : Settings) (f : Field) :
    (s.applyFlags g).setting f = (f.given g).getD (s.setting f) := by
  have hfold : ∀ (fs : List Field) (s : Settings), (fs.foldl (putGiven g) s).setting f =
      if f ∈ fs then (f.given g).getD (s.setting f) else s.setting f := by
    intro fs
    induction fs with
    | nil => exact fun s => rfl
    | cons f' rest ih =>
        intro s
        rw [List.foldl_cons, ih, setting_putGiven]
        by_cases heq : f' = f
        · subst heq
          simp only [List.mem_cons, true_or]
          cases f'.given g <;> simp
        · simp [heq, Ne.symm heq]
  rw [applyFlags_eq, hfold, if_pos f.mem_all]

@[simp] theorem configPath_applyFlags (g : Command.Given) (s : Settings) :
    (s.applyFlags g).configPath = s.configPath := by
  rw [applyFlags_eq]
  refine List.foldlRecOn (motive := fun t : Settings => t.configPath = s.configPath) _ _ rfl
    (fun t ht f _ => ?_)
  unfold putGiven
  cases f.given g with
  | none => exact ht
  | some x => exact (configPath_put f x t).trans ht

/-- Settings in which a library is named. -/
def withClient (s : Settings) : Settings :=
  { s with client := if s.client = "" then TypeScript.Transport.fetch.label else s.client }

/-- Settings as they are checked: each is settled. -/
def settle (s : Settings) : Settings :=
  s.normalize.withClient

theorem setting_settle (s : Settings) (f : Field) :
    s.settle.setting f = f.settled (s.setting f) := by
  rcases f with f | f | f <;> cases f <;>
    simp only [setting, settle, withClient, normalize, Field.settled, TextField.all,
      TagsField.all, List.foldl_cons, List.foldl_nil, TextField.update, TagsField.update] <;>
    rfl

@[simp] theorem configPath_settle (s : Settings) : s.settle.configPath = s.configPath := by
  simp only [settle, withClient, normalize, TextField.all, TagsField.all, List.foldl_cons,
    List.foldl_nil, TextField.update, TagsField.update]

/-- The checks that settings have to pass. -/
def Acceptable (s : Settings) : Prop :=
  s.input ≠ "" ∧ s.output ≠ "" ∧ transports.contains s.client = true ∧ s.overlap.isEmpty = true

/-- The settings that pass the checks are returned; otherwise the user is told what to change. -/
theorem validate_cases (s : Settings) :
    s.withClient.Acceptable ∧ s.validate = .ok s.withClient ∨
      ¬ s.withClient.Acceptable ∧ ∃ words, s.validate = .error (.usage words) := by
  unfold validate
  by_cases hin : s.input = ""
  · exact .inr ⟨fun h => h.1 hin, _, by rw [if_pos hin]; rfl⟩
  by_cases hout : s.output = ""
  · exact .inr ⟨fun h => h.2.1 hout, _, by rw [if_neg hin, if_pos hout]; rfl⟩
  rw [if_neg hin, if_neg hout]
  by_cases hclient : transports.contains s.withClient.client = true
  swap
  · have hbad : (!transports.contains s.withClient.client) = true := by simpa using hclient
    exact .inr ⟨fun h => hclient h.2.2.1, _, if_pos hbad⟩
  have hgood : ¬ (!transports.contains s.withClient.client) = true := by simpa using hclient
  by_cases hover : s.overlap.isEmpty = true
  · refine .inl ⟨⟨hin, hout, hclient, hover⟩, (if_neg hgood).trans (if_neg ?_)⟩
    simp [hover]
  · refine .inr ⟨fun h => hover h.2.2.2, _, (if_neg hgood).trans (if_pos ?_)⟩
    simp [hover]

/-! ## All of it -/

/-- The settings that entries and flags come to, before they are checked. -/
def merged (g : Command.Given) (path : String) (entries : List (String × Yaml.Datum)) : Settings :=
  ((assignAll { configPath := path } (entries.filterMap assignment?)).applyFlags g).settle

theorem merge_of_applyEntries {path : String} {entries : List (String × Yaml.Datum)}
    (h : applyEntries path { configPath := path } entries = .ok s) :
    merge g path entries = (s.applyFlags g).normalize.validate := by
  simp only [merge, h, bind, Except.bind]

theorem merge_cases (g : Command.Given) (path : String) (entries : List (String × Yaml.Datum)) :
    ((∀ e ∈ entries, (assignment? e).isSome) ∧ (merged g path entries).Acceptable) ∧
        merge g path entries = .ok (merged g path entries) ∨
      ¬ ((∀ e ∈ entries, (assignment? e).isSome) ∧ (merged g path entries).Acceptable) ∧
        ∃ words, merge g path entries = .error (.usage words) := by
  rcases applyEntries_cases path { configPath := path } entries with
    ⟨hall, hok⟩ | ⟨hsome, words, herr⟩
  · rw [merge_of_applyEntries hok, merged, settle]
    rcases validate_cases (normalize (applyFlags g
      (assignAll { configPath := path } (entries.filterMap assignment?)))) with
      ⟨hgood, hvalid⟩ | ⟨hbad, words, hvalid⟩
    · exact .inl ⟨⟨hall, hgood⟩, hvalid⟩
    · exact .inr ⟨fun h => hbad h.2, words, hvalid⟩
  · refine .inr ⟨fun h => hsome h.1, words, ?_⟩
    rw [merge, herr]
    rfl

/-- A flag wins over the file, and the file over the default. -/
theorem setting_merged (g : Command.Given) (path : String) (entries : List (String × Yaml.Datum))
    (f : Field) : (merged g path entries).setting f = f.settled ((f.given g).getD
      ((assignAll { configPath := path } (entries.filterMap assignment?)).setting f)) := by
  rw [merged, setting_settle, setting_applyFlags]

/-- The entries that mean one setting come to the same, unless a flag gives that setting. -/
def Agree (g : Command.Given) (entries : List (String × Yaml.Datum)) : Prop :=
  ∀ (f : Field) (x y : f.Range), f.given g = none →
    (∃ e ∈ entries, assignment? e = some ⟨f, x⟩) → (∃ e ∈ entries, assignment? e = some ⟨f, y⟩) →
    f.settled x = f.settled y

variable {entries other : List (String × Yaml.Datum)}

theorem merged_eq_of_perm (path : String) (hperm : other.Perm entries) (hagree : Agree g entries) :
    merged g path other = merged g path entries := by
  refine ext_setting (by simp [merged]) (fun f => ?_)
  rw [setting_merged, setting_merged]
  cases hgiven : f.given g with
  | some x => rfl
  | none =>
      have hmem : ∀ a, a ∈ other.filterMap assignment? ↔ a ∈ entries.filterMap assignment? :=
        fun a => (hperm.filterMap assignment?).mem_iff
      rcases setting_assignAll { configPath := path } (other.filterMap assignment?) f with
        hother | ⟨hother, hsame⟩
      · rcases setting_assignAll { configPath := path } (entries.filterMap assignment?) f with
          hentries | ⟨hentries, -⟩
        · exact hagree f _ _ hgiven (List.mem_filterMap.1 ((hmem _).1 hother))
            (List.mem_filterMap.1 hentries)
        · exact absurd ((hmem _).1 hother) (hentries _)
      · rcases setting_assignAll { configPath := path } (entries.filterMap assignment?) f with
          hentries | ⟨-, hsame'⟩
        · exact absurd ((hmem _).2 hentries) (hother _)
        · rw [hsame, hsame']

/-- The entry that is visited last gives its setting. -/
theorem setting_merged_concat (path : String) (rest : List (String × Yaml.Datum))
    {e : String × Yaml.Datum} {x : f.Range} (he : assignment? e = some ⟨f, x⟩)
    (hgiven : f.given g = none) :
    (merged g path (rest ++ [e])).setting f = f.settled x := by
  rw [setting_merged, hgiven, List.filterMap_append, List.filterMap_cons_some he,
    List.filterMap_nil, setting_assignAll_concat]
  rfl

theorem toOption_merge_eq_some_iff {path : String} :
    (merge g path entries).toOption = some t ↔
      ((∀ e ∈ entries, (assignment? e).isSome) ∧ (merged g path entries).Acceptable) ∧
        merged g path entries = t := by
  rcases merge_cases g path entries with ⟨hgood, hok⟩ | ⟨hbad, words, herr⟩
  · rw [hok]
    simp only [Except.toOption, Option.some.injEq]
    exact ⟨fun h => ⟨hgood, h⟩, And.right⟩
  · rw [herr]
    simp only [Except.toOption, reduceCtorEq, false_iff]
    exact fun h => hbad h.1

/-- A merge that fails reports how the settings are to be written, whatever the order of the entries.
It gives one outcome in every order exactly when it fails in every order or the entries agree on
each setting that the flags leave open. -/
theorem merge_order_iff (g : Command.Given) (path : String)
    (entries : List (String × Yaml.Datum)) :
    (∀ other fault, merge g path other = .error fault → ∃ words, fault = .usage words) ∧
      ((∀ other, other.Perm entries →
          (merge g path other).toOption = (merge g path entries).toOption) ↔
        (∀ other, other.Perm entries → (merge g path other).toOption = none) ∨
          Agree g entries) := by
  refine ⟨fun other fault hfault => ?_, fun hsame => ?_, fun h other hperm => ?_⟩
  · rcases merge_cases g path other with ⟨-, hok⟩ | ⟨-, words, herr⟩
    · rw [hok] at hfault
      cases hfault
    · rw [herr] at hfault
      cases hfault
      exact ⟨words, rfl⟩
  · cases hmerge : (merge g path entries).toOption with
    | none => exact .inl (fun other hperm => (hsame other hperm).trans hmerge)
    | some t =>
        -- each of two entries for one setting can be visited last
        refine .inr (fun f x y hgiven hx hy => ?_)
        have hlast : ∀ z : f.Range, (∃ e ∈ entries, assignment? e = some ⟨f, z⟩) →
            t.setting f = f.settled z := by
          rintro z ⟨e, hmem, he⟩
          obtain ⟨before, after, rfl⟩ := List.append_of_mem hmem
          have hperm : (before ++ after ++ [e]).Perm (before ++ e :: after) :=
            (List.perm_append_singleton e _).trans List.perm_middle.symm
          have hmerged := (toOption_merge_eq_some_iff.1 ((hsame _ hperm).trans hmerge)).2
          rw [← hmerged, setting_merged_concat path _ he hgiven]
        exact (hlast x hx).symm.trans (hlast y hy)
  · rcases h with hnone | hagree
    · rw [hnone other hperm, hnone entries (.refl _)]
    · have hmerged := merged_eq_of_perm path hperm hagree
      refine Option.ext (fun t => ?_)
      rw [toOption_merge_eq_some_iff, toOption_merge_eq_some_iff, hmerged]
      simp only [hperm.mem_iff]

/-- Two keys that mean the output: the one that is visited last counts. -/
theorem merge_two_outputs :
    ∃ (g : Command.Given) (entries other : List (String × Yaml.Datum)),
      (entries.map Prod.fst).Nodup ∧ other.Perm entries ∧
      ((merge g "" entries).toOption.map output, (merge g "" other).toOption.map output) =
        (some "b", some "a") :=
  ⟨[("input", .text "spec.yaml")],
    [("output", .scalar (.text "a")), ("out", .scalar (.text "b"))],
    [("out", .scalar (.text "b")), ("output", .scalar (.text "a"))],
    by decide, List.Perm.swap _ _ _, by decide⟩

end TypedClient.Settings
