import TypedClient.Proofs.Document.Normal

/-!
# Data in the normal form of a document

A schema object holds values of the data that it describes, under `default`, `example` and `enum`.
The normal form of a document treats them like schemas. `normalize_instances` says what this does
to them: each is folded where it stands, so it is the same as before exactly when it is normal
itself, with no list of types and no number as an exclusive bound in any of its mappings.
-/

namespace TypedClient

namespace Value

variable {doc v w : Value} {entries : Dict Value} {path rest : List Step} {name : String}

/-! ## Places that stay -/

/-- On the way to a place stands a key of which the keywords beside it settle the value. -/
inductive PassesSettled : Value → List Step → Prop where
  | here {entries : Dict Value} {name : String} {value : Option Value} {rest : List Step}
      (h : Settles entries name value) : PassesSettled (.mapping entries) (.key name :: rest)
  | there {v part : Value} {step : Step} {rest : List Step} (hpart : v.step? step = some part)
      (h : PassesSettled part rest) : PassesSettled v (step :: rest)

/-- Whether a place lies under an extension key of the paths. -/
def isUnderExtension : List Step → Bool
  | .key first :: .key name :: _ => first = "paths" && isExtensionKey name
  | _ => false

/-- A place is lost in the normal form: an extension key of the paths goes with all below it, and
so does a value that keywords settle. -/
def IsLost (doc : Value) (path : List Step) : Prop :=
  isUnderExtension path = true ∨ PassesSettled doc path

/-- No place is lost to the keywords without their keys on the way to it. -/
theorem not_passesSettled (h : ∀ name, Step.key name ∈ path →
      name ∉ ["type", "nullable", "exclusiveMinimum", "exclusiveMaximum"]) :
    ¬ PassesSettled v path := by
  intro hsettled
  induction hsettled with
  | @here entries name value rest hsettles =>
      refine h name List.mem_cons_self ?_
      simpa using hsettles.key_eq
  | there hpart _ ih => exact ih (fun name hname => h name (List.mem_cons_of_mem _ hname))

/-! ## Folding what stands at a place -/

/-- What the keywords do not settle is folded where it stands. -/
theorem at?_fold_key {part : Value} (hpart : Dict.get? entries name = some part)
    (hname : ∀ value, ¬ Settles entries name value) (rest : List Step) :
    (mapping entries).fold.at? (.key name :: rest) = part.fold.at? rest := by
  have hstep : (mapping entries).fold.step? (.key name) = some part.fold := by
    rw [fold_mapping]
    exact (get?_fold_of_not_settles hname).trans (by rw [hpart, Option.map_some])
  rw [at?, hstep, Option.bind_some]

theorem step?_fold_item (v : Value) (position : Nat) :
    v.fold.step? (.item position) = (v.step? (.item position)).map fold := by
  rw [step?, list?_fold, step?]
  cases v.list? with
  | none => rfl
  | some items => exact List.getElem?_map ..

/-- What stands at a place of a value that is not lost to keywords is folded there. -/
theorem at?_fold (hw : v.at? path = some w) (hpath : ¬ PassesSettled v path) :
    v.fold.at? path = some w.fold := by
  induction path generalizing v with
  | nil =>
      obtain rfl := Option.some.inj hw
      rfl
  | cons step rest ih =>
      obtain ⟨part, hpart, hw⟩ := Option.bind_eq_some_iff.1 hw
      have hrest := ih hw (fun h => hpath (.there hpart h))
      cases step with
      | item position =>
          rw [at?, step?_fold_item, hpart, Option.map_some, Option.bind_some, hrest]
      | key name =>
          cases v with
          | mapping entries =>
              have hget : Dict.get? entries name = some part := hpart
              rw [at?_fold_key hget (fun value h => hpath (.here h)), hrest]
          | _ => cases hpart

/-! ## Leaving out extension keys -/

/-- Two mappings agree on all keys but the paths and extensions. -/
def AgreeOnKeywords (d e : Dict Value) : Prop :=
  ∀ key, key ≠ "paths" → isExtensionKey key = false → Dict.get? d key = Dict.get? e key

/-- What keywords settle depends on the keywords only. -/
theorem Settles.congr {d e : Dict Value} {value : Option Value} (h : AgreeOnKeywords d e)
    (hsettles : Settles d name value) : Settles e name value := by
  have htype := h "type" (by decide) (by decide)
  cases hsettles with
  | type htypes hfirst => exact .type (htype ▸ htypes) hfirst
  | untyped htypes hnone => exact .untyped (htype ▸ htypes) hnone
  | nullable htypes hnull => exact .nullable (htype ▸ htypes) hnull
  | bound hkey hv hbound =>
      refine .bound hkey (h name ?_ ?_ ▸ hv) hbound
      · rcases hkey with rfl | rfl <;> decide
      · rcases hkey with rfl | rfl <;> decide

theorem agreeOnKeywords_insert (d : Dict Value) (paths : Value) :
    AgreeOnKeywords (Dict.insert "paths" paths d) d :=
  fun _ hkey _ => Dict.get?_insert_of_ne hkey paths

theorem agreeOnKeywords_filter (d : Dict Value) :
    AgreeOnKeywords (d.filter (fun e => !isExtensionKey e.1)) d := by
  intro key _ hkey
  rw [Dict.get?_filter (fun key => !isExtensionKey key), hkey]
  rfl

/-- A place under a key that both mappings hold is folded in the one as in the other. -/
theorem at?_fold_of_agree {d e : Dict Value} {part : Value} (hagree : AgreeOnKeywords e d)
    (hd : Dict.get? d name = some part) (he : Dict.get? e name = some part)
    (hw : part.at? rest = some w) (hpath : ¬ PassesSettled (.mapping d) (.key name :: rest)) :
    (mapping e).fold.at? (.key name :: rest) = some w.fold := by
  rw [at?_fold_key he (fun value h => hpath (.here (h.congr hagree)))]
  exact at?_fold hw (fun h => hpath (.there hd h))

/-- A mapping at a place that is not lost is folded there, without its extension keys where it
holds the paths. -/
theorem at?_normalize (hentries : doc.at? path = some (.mapping entries))
    (hpath : ¬ IsLost doc path) :
    ∃ trimmed, AgreeOnKeywords trimmed entries ∧
      doc.normalize.at? path = some (mapping trimmed).fold := by
  rw [IsLost, not_or] at hpath
  obtain ⟨hextension, hsettled⟩ := hpath
  obtain ⟨-, hsame⟩ | ⟨d, paths, rfl, hpaths, htrimmed⟩ := dropPathExtensions_cases doc
  · rw [normalize, hsame]
    exact ⟨entries, fun _ _ _ => rfl, at?_fold hentries hsettled⟩
  generalize hkept : paths.filter (fun e => !isExtensionKey e.1) = kept at htrimmed
  rw [normalize, htrimmed]
  have hinsert := agreeOnKeywords_insert d (.mapping kept)
  have hfilter : AgreeOnKeywords kept paths := hkept ▸ agreeOnKeywords_filter paths
  cases path with
  | nil =>
      obtain rfl := Value.mapping.inj (Option.some.inj hentries)
      exact ⟨_, hinsert, rfl⟩
  | cons step rest =>
      obtain ⟨part, hpart, hrest⟩ := Option.bind_eq_some_iff.1 hentries
      cases step with
      | item position => cases hpart
      | key first =>
          have hget : Dict.get? d first = some part := hpart
          by_cases hfirst : first = "paths"
          · subst hfirst
            obtain rfl : Value.mapping paths = part := Option.some.inj (hpaths.symm.trans hget)
            rw [at?_fold_key (Dict.get?_insert_self _ _ _)
              (fun value h => hsettled (.here (h.congr hinsert)))]
            cases rest with
            | nil =>
                obtain rfl := Value.mapping.inj (Option.some.inj hrest)
                exact ⟨kept, hfilter, rfl⟩
            | cons step rest =>
                obtain ⟨item, hitem, hrest'⟩ := Option.bind_eq_some_iff.1 hrest
                cases step with
                | item position => cases hitem
                | key name =>
                    have hname : isExtensionKey name = false := by
                      simpa [isUnderExtension] using hextension
                    have hkeep : Dict.get? kept name = some item := by
                      rw [← hkept, Dict.get?_filter (fun key => !isExtensionKey key), hname]
                      exact hitem
                    exact ⟨entries, fun _ _ _ => rfl, at?_fold_of_agree hfilter hitem hkeep hrest'
                      (fun h => hsettled (.there hpart h))⟩
          · have hkeep := (Dict.get?_insert_of_ne hfirst (.mapping kept)).trans hget
            exact ⟨entries, fun _ _ _ => rfl,
              at?_fold_of_agree hinsert hget hkeep hrest hsettled⟩

/-! ## Data in schema objects -/

/-- The keywords of a schema object that hold data. -/
def instanceKeywords : List String :=
  ["default", "example", "enum"]

/-- Folding keeps a value exactly when the value is normal. -/
theorem fold_eq_iff : v.fold = v ↔ IsNormal v :=
  ⟨fun h => h ▸ isNormal_fold v, fun h => h.fold_eq⟩

/-- The data that a mapping of a document holds under `default`, `example` and `enum` is folded in
the normal form of the document. It is the same as before exactly when it is normal. -/
theorem normalize_instances (hentries : doc.at? path = some (.mapping entries))
    (hpath : ¬ IsLost doc path) :
    ∃ folded, doc.normalize.at? path = some (.mapping folded) ∧
      ∀ keyword ∈ instanceKeywords,
        Dict.get? folded keyword = (Dict.get? entries keyword).map fold ∧
          (Dict.get? folded keyword = Dict.get? entries keyword ↔
            ∀ v, Dict.get? entries keyword = some v → IsNormal v) := by
  obtain ⟨trimmed, hagree, hat⟩ := at?_normalize hentries hpath
  refine ⟨_, hat.trans (congrArg some (fold_mapping trimmed)), fun keyword hkeyword => ?_⟩
  have hfree : ∀ value, ¬ Settles trimmed keyword value := by
    intro value hsettles
    have hkeys : ∀ key ∈ instanceKeywords, ¬ (key = "type" ∨ key = "nullable" ∨
        key = "exclusiveMinimum" ∨ key = "exclusiveMaximum") := by decide
    exact hkeys keyword hkeyword hsettles.key_eq
  have hother : ∀ key ∈ instanceKeywords, key ≠ "paths" ∧ isExtensionKey key = false := by decide
  obtain ⟨hpaths, hextension⟩ := hother keyword hkeyword
  have hfolded := get?_fold_of_not_settles hfree
  rw [hagree keyword hpaths hextension] at hfolded
  refine ⟨hfolded, ?_⟩
  rw [hfolded]
  cases Dict.get? entries keyword with
  | none => simp
  | some v => simp [fold_eq_iff]

/-- A schema with data, of which the default looks like a schema itself. -/
def age : Dict Value :=
  [("default", .mapping [("type", .list [.text "cat", .text "dog"])]),
    ("enum", .list [.int 1, .text "null"]),
    ("exclusiveMinimum", .int 0),
    ("type", .list [.text "integer", .text "null"])]

/-- A document that defines `age`. -/
def stocked : Value :=
  .mapping [("definitions", .mapping [("age", .mapping age)]), ("paths", .mapping [])]

/-- What `normalize_instances` says of `stocked`: the values of the enum stay, and of the list in
the default only one type is left. -/
theorem normalize_instances_stocked :
    ∃ folded, stocked.normalize.at? [.key "definitions", .key "age"] = some (.mapping folded) ∧
      Dict.get? folded "enum" = some (.list [.int 1, .text "null"]) ∧
      Dict.get? folded "default" = some (.mapping [("type", .text "cat")]) ∧
      ∀ keyword ∈ instanceKeywords,
        Dict.get? folded keyword = (Dict.get? age keyword).map fold ∧
          (Dict.get? folded keyword = Dict.get? age keyword ↔
            ∀ v, Dict.get? age keyword = some v → IsNormal v) := by
  have hage : stocked.at? [.key "definitions", .key "age"] = some (.mapping age) := by rfl
  have hpath : ¬ IsLost stocked [.key "definitions", .key "age"] := by
    rintro (hextension | hsettled)
    · exact absurd hextension (by decide)
    · refine not_passesSettled (fun name hname => ?_) hsettled
      simp only [List.mem_cons, Step.key.injEq, List.not_mem_nil, or_false] at hname
      rcases hname with rfl | rfl <;> decide
  obtain ⟨folded, hat, hdata⟩ := normalize_instances hage hpath
  refine ⟨folded, hat, ?_, ?_, hdata⟩
  · rw [(hdata "enum" (by decide)).1]
    rfl
  · rw [(hdata "default" (by decide)).1]
    rfl

/-- The default of `age` is another one in the normal form of the document. -/
theorem default_rewritten :
    stocked.at? [.key "definitions", .key "age", .key "default"] =
        some (.mapping [("type", .list [.text "cat", .text "dog"])]) ∧
      stocked.normalize.at? [.key "definitions", .key "age", .key "default"] =
        some (.mapping [("type", .text "cat")]) ∧
      stocked.normalize.at? [.key "definitions", .key "age", .key "default"] ≠
        stocked.at? [.key "definitions", .key "age", .key "default"] := by
  have hbefore : stocked.at? [.key "definitions", .key "age", .key "default"] =
      some (.mapping [("type", .list [.text "cat", .text "dog"])]) := by rfl
  have hafter : stocked.normalize.at? [.key "definitions", .key "age", .key "default"] =
      some (.mapping [("type", .text "cat")]) := by rfl
  refine ⟨hbefore, hafter, ?_⟩
  rw [hbefore, hafter]
  simp

end Value

end TypedClient
