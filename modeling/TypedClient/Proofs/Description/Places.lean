import TypedClient.Description.Dereference
import TypedClient.Description.Form
import TypedClient.Proofs.Draft.Definitions

/-!
# Places in a description

A description has a part of a known form at each place that the fields of its objects lead to, and
at each place that a reference leads to. `Located` follows the fields and the references, and puts
two accounts of a place side by side: the pointer that is put together on the way, and the path of
the keys that are really there. The pointer writes every field the way its form does, and it is
percent-decoded when it is followed. `Located.reaches` shows that the path leads to the place, and
`Located.forall₂_tokens?` that a pointer without percent signs names it, up to the letter case of
fields.
-/

namespace TypedClient

namespace Pointer

/-- The written form of an index is its own. -/
theorem escape_toString (i : Nat) : escape (toString i) = toString i := by
  have hself : ∀ c ∈ (toString i).toList, escapeChar c = [c] := by
    intro c hc
    have hdigit := isDigit_of_mem_toString hc
    have hne : ∀ d : Char, d.isDigit = false → c ≠ d := by
      rintro d hd rfl
      rw [hd] at hdigit
      cases hdigit
    rw [escapeChar, if_neg (hne '~' (by decide)), if_neg (hne '/' (by decide))]
  rw [escape, List.flatMap_congr hself, List.flatMap_singleton', String.ofList_toList]

/-- An index is read back from its written form, unless it does not fit. -/
theorem index?_toString (i : Nat) :
    index? (toString i) = if i < Word.signedBound then some (i : Int) else none := by
  have hdigits : (toString i).toList = Nat.toDigits 10 i := by
    rw [Nat.toString_eq_repr, Nat.toList_repr]
  have hvalue : (toString i).toList.foldl (fun n c => 10 * n + (c.toNat - '0'.toNat)) 0 = i :=
    hdigits ▸ Nat.ofDigitChars_ten_toDigits
  have hdigit : (toString i).toList.any (fun c => !c.isDigit) = false := by
    rw [List.any_eq_false]
    intro c hc
    simp [isDigit_of_mem_toString hc]
  have hempty : (toString i).toList.isEmpty = false := by
    rw [hdigits]
    simp
  unfold index?
  split
  rename_i negative digits heq
  split at heq
  · rename_i rest hrest
    exact absurd (isDigit_of_mem_toString (hrest ▸ List.mem_cons_self)) (by decide)
  · rename_i rest hrest
    exact absurd (isDigit_of_mem_toString (hrest ▸ List.mem_cons_self)) (by decide)
  · obtain ⟨rfl, rfl⟩ := Prod.mk.inj heq
    simp only [hempty, hdigit, hvalue]
    simp

/-- One more segment is one more key. -/
theorem keysOf?_below (fragment : Bytes) {segment : Bytes} (h : 0x2f ∉ segment) :
    keysOf? (fragment ++ 0x2f :: segment) =
      (keysOf? fragment).map (· ++ [unescape segment]) := by
  have hsingle : segment.splitOn 0x2f = [segment] := List.splitOn_eq_singleton h
  cases fragment with
  | nil => simp [keysOf?, hsingle]
  | cons b rest =>
      by_cases hb : b = 0x2f
      · have hsplit := List.splitOn_append_cons_self (a := (0x2f : UInt8)) rest segment
        simp [keysOf?, hb, hsplit, hsingle]
      · simp [keysOf?, hb]

theorem startsWith_of_lookup? {doc v : Value} {pointer : String}
    (h : lookup? doc pointer = some v) : Text.startsWith "#" pointer = true := by
  by_contra hstart
  rw [lookup?_eq, if_neg hstart] at h
  cases h

/-- A pointer without percent signs that goes on by a key names one key more. -/
theorem tokens?_below {pointer key : String} (hstart : Text.startsWith "#" pointer = true)
    (h : '%' ∉ (pointer ++ "/" ++ escape key).toList) :
    tokens? (pointer ++ "/" ++ escape key) = (tokens? pointer).map (· ++ [key]) := by
  have hpointer : '%' ∉ pointer.toList := by
    simp only [String.toList_append, List.mem_append, not_or] at h
    exact h.1.1
  have hwhole : Literal _ := literal_of_not_mem h
  have hslash : Text.bytes "/" = [0x2f] := by decide
  have hbytes : Text.bytes (pointer ++ "/" ++ escape key) =
      Text.bytes pointer ++ 0x2f :: escapeBytes (Text.bytes key) := by
    rw [Text.bytes_append, Text.bytes_append, bytes_escape, hslash, List.append_assoc]
    rfl
  have hlocal : isLocal (Text.bytes pointer) = true := (isLocal_bytes pointer).trans hstart
  have hkeys : keys? (Text.bytes (pointer ++ "/" ++ escape key)) =
      (keys? (Text.bytes pointer)).map (· ++ [Text.bytes key]) := by
    rw [keys?, hwhole, hbytes, afterSign_append hlocal,
      keysOf?_below _ (slash_not_mem_escapeBytes _), unescape_escapeBytes, keys?,
      literal_of_not_mem hpointer]
  rw [tokens?, tokens?, hkeys]
  cases keys? (Text.bytes pointer) with
  | none => rfl
  | some keys =>
      simp only [Option.map_some, Option.bind_some, List.mapM_append, List.mapM_cons,
        List.mapM_nil, Text.ofBytes?_bytes]
      cases keys.mapM Text.ofBytes? <;> rfl

end Pointer

/-! ## Places -/

/-- `Located root doc form pointer path v` says that `v` stands at `path` in the document, that a
part of the form is read there, and that `pointer` is put together on the way. The whole document
is an object of the kind `root`. -/
inductive Located (root : ObjectKind) (doc : Value) :
    Form → String → List String → Value → Prop where
  /-- The whole document. -/
  | whole : Located root doc (.object root) "#" [] doc
  /-- The value of a field of an object. -/
  | field {kind : ObjectKind} {form : Form} {pointer word key : String} {path : List String}
      {v w : Value} (h : Located root doc (.object kind) pointer path v)
      (hform : (word, form) ∈ kind.fields) (hkey : Field.isFor word key = true)
      (hw : (key, w) ∈ v.entries) :
      Located root doc form (pointer ++ "/" ++ Pointer.escape word) (path ++ [key]) w
  /-- The value under a key. -/
  | entry {form : Form} {pointer key : String} {path : List String} {v w : Value}
      (h : Located root doc (.dict form) pointer path v) (hw : (key, w) ∈ v.entries) :
      Located root doc form (pointer ++ "/" ++ Pointer.escape key) (path ++ [key]) w
  /-- An item of a list. -/
  | item {form : Form} {pointer : String} {path : List String} {items : List Value} {i : Nat}
      {w : Value} (h : Located root doc (.list form) pointer path (.list items))
      (hw : items[i]? = some w) :
      Located root doc form (pointer ++ "/" ++ toString i) (path ++ [toString i]) w
  /-- A schema for additional properties is a schema. -/
  | additional {pointer : String} {path : List String} {v : Value}
      (h : Located root doc .additional pointer path v) :
      Located root doc (.orReference .schema) pointer path v
  /-- What could be a reference and is none. -/
  | inline {kind : ObjectKind} {pointer : String} {path : List String} {v : Value}
      (h : Located root doc (.orReference kind) pointer path v)
      (hv : Field.target? v.entries = none) : Located root doc (.object kind) pointer path v
  /-- The end of a chain of references. -/
  | target {kind : ObjectKind} {form : Form} {pointer ref last : String} {path keys : List String}
      {v w : Value} (h : Located root doc form pointer path v)
      (hform : form = .object kind ∨ form = .orReference kind)
      (href : Field.text "$ref" v.entries = ref ∨ Field.target? v.entries = some ref)
      (hlast : doc.dereference pointer ref = .ok (last, w))
      (hkeys : Pointer.tokens? last = some keys) : Located root doc (.object kind) last keys w

theorem Pointer.isOrdered_of_descend? {doc v : Value} (h : doc.isOrdered = true)
    {path : List String} (hv : descend? doc path = some v) : v.isOrdered = true := by
  induction path using List.reverseRecOn generalizing v with
  | nil => exact Option.some.inj hv ▸ h
  | append_singleton path key ih =>
      rw [descend?_concat] at hv
      obtain ⟨u, hu, hstep⟩ := Option.bind_eq_some_iff.1 hv
      have hordered := ih hu
      cases u with
      | mapping entries => exact Dict.Ordered.get? hordered hstep
      | list items =>
          obtain ⟨i, -, hi⟩ := Option.bind_eq_some_iff.1 hstep
          split at hi
          · cases hi
          · exact Value.isOrdered_list.1 hordered v (List.mem_of_getElem? hi)
      | _ => cases hstep

/-- A value is found along a path, unless an index on the way is too large to be followed. -/
def Pointer.Reaches (doc : Value) (path : List String) (v : Value) : Prop :=
  descend? doc path = some v ∨
    descend? doc path = none ∧ ∃ i, Word.signedBound ≤ i ∧ toString i ∈ path

/-- What is not reached has nothing below it. -/
theorem Pointer.Reaches.concat {doc v w : Value} {path : List String} {key : String}
    (h : Reaches doc path v)
    (hstep : descend? doc path = some v → Reaches doc (path ++ [key]) w) :
    Reaches doc (path ++ [key]) w := by
  rcases h with hfound | ⟨hnone, i, hi, hmem⟩
  · exact hstep hfound
  · refine .inr ⟨?_, i, hi, List.mem_append_left _ hmem⟩
    rw [descend?_concat, hnone]
    rfl

namespace Located

variable {root : ObjectKind} {doc v : Value} {form : Form} {pointer : String} {path : List String}

/-- A pointer of the document starts with a number sign. -/
theorem startsWith (h : Located root doc form pointer path v) :
    Text.startsWith "#" pointer = true := by
  induction h with
  | whole => decide
  | field _ _ _ _ ih => exact Text.startsWith_append (Text.startsWith_append ih _) _
  | entry _ _ ih => exact Text.startsWith_append (Text.startsWith_append ih _) _
  | item _ _ ih => exact Text.startsWith_append (Text.startsWith_append ih _) _
  | additional _ ih => exact ih
  | inline _ _ ih => exact ih
  | target _ _ _ hlast _ _ => exact Pointer.startsWith_of_lookup? (Value.lookup?_of_chase hlast)

/-- Percent signs apart, a pointer names the keys of the path, with fields written the way their
forms do. -/
theorem forall₂_tokens? (h : Located root doc form pointer path v) (hplain : '%' ∉ pointer.toList) :
    ∃ keys, Pointer.tokens? pointer = some keys ∧
      List.Forall₂ (fun word key => Field.isFor word key = true) keys path := by
  have hself : ∀ key : String, Field.isFor key key = true := fun key => by simp [Field.isFor]
  -- one step down adds one key to both
  have hstep : ∀ {pointer word key : String} {path : List String},
      Text.startsWith "#" pointer = true → ('%' ∉ pointer.toList → ∃ keys,
        Pointer.tokens? pointer = some keys ∧
          List.Forall₂ (fun word key => Field.isFor word key = true) keys path) →
      Field.isFor word key = true → '%' ∉ (pointer ++ "/" ++ Pointer.escape word).toList →
      ∃ keys, Pointer.tokens? (pointer ++ "/" ++ Pointer.escape word) = some keys ∧
        List.Forall₂ (fun word key => Field.isFor word key = true) keys (path ++ [key]) := by
    intro pointer word key path hstart ih hkey hplain
    have hpointer : '%' ∉ pointer.toList := by
      simp only [String.toList_append, List.mem_append, not_or] at hplain
      exact hplain.1.1
    obtain ⟨keys, hkeys, hall⟩ := ih hpointer
    rw [Pointer.tokens?_below hstart hplain, hkeys]
    exact ⟨_, rfl, List.rel_append hall (.cons hkey .nil)⟩
  induction h with
  | whole => exact ⟨[], by decide, .nil⟩
  | field h _ hkey _ ih => exact hstep h.startsWith ih hkey hplain
  | entry h _ ih => exact hstep h.startsWith ih (hself _) hplain
  | @item _ _ _ _ i _ h _ ih =>
      have hindex := hstep h.startsWith ih (hself (toString i))
      rw [Pointer.escape_toString] at hindex
      exact hindex hplain
  | additional _ ih => exact ih hplain
  | inline _ _ ih => exact ih hplain
  | target _ _ _ _ hkeys _ => exact ⟨_, hkeys, List.forall₂_same.2 (fun key _ => hself key)⟩

/-- What stands at a place is ordered, and reached along the path. -/
theorem reaches (h : Located root doc form pointer path v) (hdoc : doc.isOrdered = true) :
    v.isOrdered = true ∧ Pointer.Reaches doc path v := by
  -- an entry of an ordered value is found under its key
  have hstep : ∀ {path : List String} {key : String} {v w : Value},
      v.isOrdered = true ∧ Pointer.Reaches doc path v → (key, w) ∈ v.entries →
      w.isOrdered = true ∧ Pointer.Reaches doc (path ++ [key]) w := by
    rintro path key v w ⟨hv, hpath⟩ hw
    have hentries := Value.ordered_entries hv
    refine ⟨(Dict.ordered_iff.1 hentries).2 _ hw, hpath.concat (fun hfound => .inl ?_)⟩
    rw [Pointer.descend?_concat, hfound, Option.bind_some,
      Value.step?_of_mem_entries hentries.sorted hw]
  induction h with
  | whole => exact ⟨hdoc, .inl rfl⟩
  | field _ _ _ hw ih => exact hstep ih hw
  | entry _ hw ih => exact hstep ih hw
  | @item _ _ path items i w _ hw ih =>
      refine ⟨Value.isOrdered_list.1 ih.1 w (List.mem_of_getElem? hw),
        ih.2.concat (fun hfound => ?_)⟩
      rw [Pointer.Reaches, Pointer.descend?_concat, hfound, Option.bind_some, Pointer.step?,
        Pointer.index?_toString]
      by_cases hi : i < Word.signedBound
      · rw [if_pos hi]
        simp [hw]
      · rw [if_neg hi]
        exact .inr ⟨rfl, i, Nat.not_lt.1 hi, List.mem_append_right _ List.mem_cons_self⟩
  | additional _ ih => exact ih
  | inline _ _ ih => exact ih
  | target _ _ _ hlast hkeys _ =>
      have hfound := Value.lookup?_of_chase hlast
      have hstart : Text.startsWith "#" _ = true := Pointer.startsWith_of_lookup? hfound
      rw [Pointer.lookup?_eq, if_pos hstart, hkeys, Option.bind_some] at hfound
      exact ⟨Pointer.isOrdered_of_descend? hdoc hfound, .inl hfound⟩

end Located

/-! ## Where the values of fields stand -/

namespace Field

variable {word : String} {es : Dict Value} {v w : Value}

theorem mem_all : v ∈ all word es ↔ ∃ key, isFor word key = true ∧ (key, v) ∈ es := by
  simp only [all, List.mem_map, List.mem_filter, Prod.exists, exists_eq_right]
  exact exists_congr (fun key => And.comm)

theorem value_mem_all (h : value word es ≠ .null) : value word es ∈ all word es := by
  unfold value at h ⊢
  cases hlast : (all word es).getLast? with
  | none =>
      rw [hlast] at h
      exact absurd rfl h
  | some w => exact List.mem_of_getLast? hlast

theorem exists_list {i : Nat} (h : (list word es)[i]? = some w) :
    ∃ items, .list items ∈ all word es ∧ items[i]? = some w := by
  unfold list at h
  cases hvalue : value word es with
  | list items =>
      have hmem : value word es ∈ all word es := value_mem_all (by simp [hvalue])
      rw [hvalue] at h hmem
      exact ⟨items, hmem, h⟩
  | _ => simp [hvalue, Value.list?] at h

/-- An entry that is gathered from several values is one of those that were there or an entry of
one of the values. -/
theorem exists_of_mem_foldl {gather : Dict Value → Value → Dict Value} {e : String × Value}
    (hgather : ∀ d v, e ∈ gather d v → e ∈ d ∨ e ∈ v.entries) {vs : List Value} {d : Dict Value}
    (h : e ∈ vs.foldl gather d) : e ∈ d ∨ ∃ v ∈ vs, e ∈ v.entries := by
  induction vs generalizing d with
  | nil => exact .inl h
  | cons v rest ih =>
      rcases ih h with hd | ⟨w, hw, hmem⟩
      · exact (hgather d v hd).imp_right (fun hmem => ⟨v, List.mem_cons_self, hmem⟩)
      · exact .inr ⟨w, List.mem_cons_of_mem v hw, hmem⟩

theorem exists_dict {key : String} (h : (key, w) ∈ dict word es) :
    ∃ v ∈ all word es, (key, w) ∈ v.entries := by
  refine (exists_of_mem_foldl (fun d v hd => ?_) h).resolve_left List.not_mem_nil
  cases v with
  | mapping es => exact Dict.mem_of_mem_insertAll hd
  | _ => cases hd

/-- What several values leave, each of which is taken or left out, is what was there or has been
read from one of the values. -/
theorem eq_or_read_of_foldl {α : Type} {change : α → Value → α} {read : Value → α}
    {vs : List Value} {x y : α} (h : vs.foldl change x = y)
    (hchange : ∀ x v, change x v = x ∨ change x v = read v) : y = x ∨ ∃ v ∈ vs, y = read v := by
  induction vs generalizing x with
  | nil => exact .inl h.symm
  | cons v rest ih =>
      rcases ih h with hsame | ⟨w, hw, hread⟩
      · rcases hchange x v with hkept | hread
        · exact .inl (hsame.trans hkept)
        · exact .inr ⟨v, List.mem_cons_self, hsame.trans hread⟩
      · exact .inr ⟨w, List.mem_cons_of_mem v hw, hread⟩

theorem eq_of_optional {α : Type} {read : Dict Value → α} {it : α}
    (h : Field.optional read v = some it) : it = read v.entries := by
  cases v with
  | mapping es => exact (Option.some.inj h).symm
  | _ => cases h

end Field

/-- A part of the form is read at the pointer, whatever the path is. -/
def Stands (root : ObjectKind) (doc : Value) (form : Form) (pointer : String) (v : Value) : Prop :=
  ∃ path, Located root doc form pointer path v

namespace Stands

variable {root kind : ObjectKind} {doc v w : Value} {form : Form} {pointer word step : String}

theorem whole : Stands root doc (.object root) "#" doc :=
  ⟨[], .whole⟩

theorem field (h : Stands root doc (.object kind) pointer v) (hform : (word, form) ∈ kind.fields)
    (hstep : "/" ++ Pointer.escape word = step) (hw : w ∈ Field.all word v.entries) :
    Stands root doc form (pointer ++ step) w := by
  obtain ⟨path, h⟩ := h
  obtain ⟨key, hkey, hw⟩ := Field.mem_all.1 hw
  rw [← hstep, ← String.append_assoc]
  exact ⟨_, h.field hform hkey hw⟩

theorem listed (h : Stands root doc (.object kind) pointer v)
    (hform : (word, .list form) ∈ kind.fields) (hstep : "/" ++ Pointer.escape word = step)
    {i : Nat} (hw : (Field.list word v.entries)[i]? = some w) :
    Stands root doc form (pointer ++ step ++ "/" ++ toString i) w := by
  obtain ⟨items, hitems, hw⟩ := Field.exists_list hw
  obtain ⟨path, hlist⟩ := h.field hform hstep hitems
  exact ⟨_, hlist.item hw⟩

theorem entered (h : Stands root doc (.object kind) pointer v)
    (hform : (word, .dict form) ∈ kind.fields) (hstep : "/" ++ Pointer.escape word ++ "/" = step)
    {key : String} (hw : (key, w) ∈ Field.dict word v.entries) :
    Stands root doc form (pointer ++ step ++ Pointer.escape key) w := by
  obtain ⟨d, hd, hw⟩ := Field.exists_dict hw
  obtain ⟨path, hdict⟩ := h.field hform rfl hd
  rw [← hstep, ← String.append_assoc]
  exact ⟨_, hdict.entry hw⟩

theorem inline (h : Stands root doc (.orReference kind) pointer v)
    (hv : Field.target? v.entries = none) : Stands root doc (.object kind) pointer v := by
  obtain ⟨path, h⟩ := h
  exact ⟨path, h.inline hv⟩

/-- What is entered below a section stands where the keys of the section and its own key lead. -/
theorem joined {base key : String} {keys : List String}
    (h : Stands root doc form (base ++ step ++ Pointer.escape key) v)
    (hkeys : Pointer.join keys ++ "/" = base ++ step) :
    Stands root doc form (Pointer.join (keys ++ [key])) v := by
  rw [Pointer.join_concat, hkeys]
  exact h

/-- What a reference leads to stands where the last reference points. -/
theorem target {α : Type} {read : Dict Value → α} {referrer ref place : String} {it : α}
    (h : Stands root doc form pointer v)
    (hform : form = .object kind ∨ form = .orReference kind)
    (href : Field.text "$ref" v.entries = ref ∨ Field.target? v.entries = some ref)
    (hread : doc.readTarget kind read referrer ref = .ok (it, place)) :
    ∃ w, Stands root doc (.object kind) place w ∧ it = read w.entries := by
  obtain ⟨path, h⟩ := h
  obtain ⟨w, hlast, hit⟩ := Value.dereference_of_readTarget hread pointer
  have hfound := Value.lookup?_of_chase hlast
  have hstart := Pointer.startsWith_of_lookup? hfound
  rw [Pointer.lookup?_eq, if_pos hstart] at hfound
  obtain ⟨keys, hkeys, -⟩ := Option.bind_eq_some_iff.1 hfound
  exact ⟨w, ⟨keys, h.target hform href hlast hkeys⟩, hit⟩

end Stands

/-- The values of a list stand one after the other below a pointer, the first at index `i`. -/
def StandFrom (root : ObjectKind) (doc : Value) (form : Form) (pointer : String) (i : Nat)
    (vs : List Value) : Prop :=
  ∀ (j : Nat) v, vs[j]? = some v → Stands root doc form (pointer ++ "/" ++ toString (i + j)) v

namespace StandFrom

variable {root : ObjectKind} {doc v : Value} {form : Form} {pointer : String} {i : Nat}
  {rest : List Value}

theorem head (h : StandFrom root doc form pointer i (v :: rest)) :
    Stands root doc form (pointer ++ "/" ++ toString i) v :=
  h 0 v rfl

theorem tail (h : StandFrom root doc form pointer i (v :: rest)) :
    StandFrom root doc form pointer (i + 1) rest := by
  intro j w hw
  have hnext := h (j + 1) w hw
  rwa [← Nat.add_assoc, Nat.add_right_comm] at hnext

theorem of_listed {kind : ObjectKind} {word step : String}
    (h : Stands root doc (.object kind) pointer v) (hform : (word, Form.list form) ∈ kind.fields)
    (hstep : "/" ++ Pointer.escape word = step) :
    StandFrom root doc form (pointer ++ step) 0 (Field.list word v.entries) := by
  intro j w hw
  rw [Nat.zero_add]
  exact h.listed hform hstep hw

end StandFrom

/-! ## Where the schemas inside a schema stand -/

namespace Schema

theorem readItems_eq_map (items : List Value) : readItems items = items.map read := by
  induction items with
  | nil => rfl
  | cons v rest ih => rw [readItems, ih, List.map_cons]

/-- A schema that is written in place has one account of its keywords and one of its parts. -/
theorem ofParts_inj {facts other : SchemaFacts} {p q : Parts}
    (h : ofParts facts p = ofParts other q) : facts = other ∧ p = q := by
  cases p
  cases q
  simp only [ofParts, inline.injEq] at h
  obtain ⟨rfl, rfl, rfl, rfl, rfl, rfl, rfl⟩ := h
  exact ⟨rfl, rfl⟩

/-- The parts of a schema after one more of its entries. -/
def Parts.next (p : Parts) (key : String) (v : Value) : Parts :=
  if Field.isFor "allOf" key then { p with allOf := readList v }
  else if Field.isFor "oneOf" key then { p with oneOf := readList v }
  else if Field.isFor "anyOf" key then { p with anyOf := readList v }
  else if Field.isFor "items" key then { p with items := p.items.overlaidBy (read v) }
  else if Field.isFor "properties" key then { p with properties := readDict p.properties v }
  else if Field.isFor "additionalProperties" key then
    { p with additional := p.additional.addedBy v (read v) }
  else p

theorem readParts_cons (p : Parts) (key : String) (v : Value) (rest : Dict Value) :
    readParts p ((key, v) :: rest) = readParts (p.next key v) rest := by
  rw [readParts]
  rfl

/-- A part that each entry of its field changes in the same way. -/
theorem readParts_part {α : Type} (part : Parts → α) (word : String) (change : α → Value → α)
    (hnext : ∀ p key v, part (Parts.next p key v) =
      if Field.isFor word key then change (part p) v else part p) (p : Parts) (es : Dict Value) :
    part (readParts p es) = (Field.all word es).foldl change (part p) := by
  induction es generalizing p with
  | nil => rw [readParts]; rfl
  | cons e rest ih =>
      obtain ⟨key, v⟩ := e
      rw [readParts_cons, ih, hnext, Field.all, Field.all, List.filter_cons]
      split
      · rfl
      · rfl

/-- An entry changes the part of its field and no other one. -/
theorem next_eq (p : Parts) (key : String) (v : Value) : p.next key v =
    { allOf := if Field.isFor "allOf" key then readList v else p.allOf
      oneOf := if Field.isFor "oneOf" key then readList v else p.oneOf
      anyOf := if Field.isFor "anyOf" key then readList v else p.anyOf
      items := if Field.isFor "items" key then p.items.overlaidBy (read v) else p.items
      properties :=
        if Field.isFor "properties" key then readDict p.properties v else p.properties
      additional :=
        if Field.isFor "additionalProperties" key then p.additional.addedBy v (read v)
        else p.additional } := by
  have hwords : Field.fold "allOf" = "allof" ∧ Field.fold "oneOf" = "oneof" ∧
      Field.fold "anyOf" = "anyof" ∧ Field.fold "items" = "items" ∧
      Field.fold "properties" = "properties" ∧
      Field.fold "additionalProperties" = "additionalproperties" := by decide
  obtain ⟨h1, h2, h3, h4, h5, h6⟩ := hwords
  unfold Parts.next
  simp only [Field.isFor, h1, h2, h3, h4, h5, h6, beq_iff_eq]
  split_ifs <;> simp_all

/-- The schemas of a list field are read from its items. -/
theorem readParts_listed {part : Parts → List Schema} {word : String}
    (hnext : ∀ p key v, part (Parts.next p key v) =
      if Field.isFor word key then readList v else part p) (hnil : part {} = [])
    (es : Dict Value) : part (readParts {} es) = (Field.list word es).map read := by
  have hlist : ∀ v, readList v = (v.list?.getD []).map read := by
    intro v
    cases v with
    | list items => exact readItems_eq_map items
    | _ => rfl
  have hlast : ∀ (vs : List Value) (ss : List Schema), vs.foldl (fun _ v => readList v) ss =
      (vs.getLast?.map readList).getD ss := by
    intro vs
    induction vs using List.reverseRecOn with
    | nil => exact fun ss => rfl
    | append_singleton vs v _ => simp
  rw [readParts_part part word (fun _ v => readList v) hnext, hlast, hnil, Field.list, Field.value]
  cases (Field.all word es).getLast? with
  | none => rfl
  | some v => exact hlist v

theorem allOf_readParts (es : Dict Value) :
    (readParts {} es).allOf = (Field.list "allOf" es).map read :=
  readParts_listed (fun p key v => by rw [next_eq]) rfl es

theorem oneOf_readParts (es : Dict Value) :
    (readParts {} es).oneOf = (Field.list "oneOf" es).map read :=
  readParts_listed (fun p key v => by rw [next_eq]) rfl es

theorem anyOf_readParts (es : Dict Value) :
    (readParts {} es).anyOf = (Field.list "anyOf" es).map read :=
  readParts_listed (fun p key v => by rw [next_eq]) rfl es

theorem items_readParts (es : Dict Value) : (readParts {} es).items = ofField "items" es :=
  readParts_part Parts.items "items" _ (fun p key v => by rw [next_eq]) {} es

theorem additional_readParts (es : Dict Value) : (readParts {} es).additional =
    (Field.all "additionalProperties" es).foldl (fun s v => s.addedBy v (read v)) .missing :=
  readParts_part Parts.additional "additionalProperties" _ (fun p key v => by rw [next_eq]) {} es

/-- The properties of a schema are read from the entries of a field. -/
theorem properties_readParts (es : Dict Value) : (readParts {} es).properties =
    Dict.mapValues read (Field.dict "properties" es) := by
  have hinsert : ∀ (key : String) (v : Value) (d : Dict Value),
      Dict.insert key (read v) (Dict.mapValues read d) =
        Dict.mapValues read (Dict.insert key v d) := by
    intro key v d
    induction d with
    | nil => rfl
    | cons e rest ih =>
        simp only [Dict.mapValues, List.map_cons, Dict.insert] at ih ⊢
        split_ifs
        · rfl
        · rfl
        · rw [List.map_cons, ← ih]
  have hentries : ∀ (entries d : Dict Value), readEntries (Dict.mapValues read d) entries =
      Dict.mapValues read (entries.foldl (fun d e => Dict.insert e.1 e.2 d) d) := by
    intro entries
    induction entries with
    | nil => exact fun d => by rw [readEntries]; rfl
    | cons e rest ih =>
        intro d
        rw [readEntries, hinsert, ih]
        rfl
  rw [readParts_part Parts.properties "properties" readDict (fun p key v => by rw [next_eq])]
  show (Field.all "properties" es).foldl readDict (Dict.mapValues read []) = _
  rw [Field.dict]
  refine List.foldl_hom (Dict.mapValues read) (fun d v => ?_)
  cases v with
  | mapping entries => rw [readDict, hentries]
  | _ => rfl

/-- A field of schemas is missing when it has no values, and else it is read from one of them. -/
theorem foldl_cases {change : Schema → Value → Schema}
    (hchange : ∀ s v, change s v = s ∨ change s v = read v)
    (hfirst : ∀ v, change .missing v = read v) (vs : List Value) :
    vs = [] ∧ vs.foldl change .missing = .missing ∨
      ∃ v ∈ vs, vs.foldl change .missing = read v := by
  cases vs with
  | nil => exact .inl ⟨rfl, rfl⟩
  | cons v rest =>
      rw [List.foldl_cons, hfirst]
      rcases Field.eq_or_read_of_foldl (Eq.refl (rest.foldl change (read v))) hchange with
        hsame | ⟨w, hw, hread⟩
      · exact .inr ⟨v, List.mem_cons_self, hsame⟩
      · exact .inr ⟨w, List.mem_cons_of_mem v hw, hread⟩

theorem overlaidBy_cases (s t : Schema) : s.overlaidBy t = s ∨ s.overlaidBy t = t := by
  unfold overlaidBy
  split
  · exact .inl rfl
  · exact .inr rfl

theorem addedBy_cases (s t : Schema) (v : Value) : s.addedBy v t = s ∨ s.addedBy v t = t := by
  unfold addedBy
  split
  · exact .inl rfl
  · split
    · exact .inr rfl
    · exact overlaidBy_cases s t

theorem missing_addedBy (t : Schema) (v : Value) : missing.addedBy v t = t := by
  cases t with
  | missing => rfl
  | reference target => exact ite_self _
  | inline => exact ite_self _

/-- The schemas inside a schema, with the pointers that they are given below the pointer of the
whole. -/
inductive Parts.Holds (p : Parts) (pointer : String) : String → Schema → Prop where
  /-- What all of which apply. -/
  | allOf {i : Nat} {s : Schema} (h : p.allOf[i]? = some s) :
      Holds p pointer (pointer ++ "/allOf" ++ "/" ++ toString i) s
  /-- What exactly one of which applies. -/
  | oneOf {i : Nat} {s : Schema} (h : p.oneOf[i]? = some s) :
      Holds p pointer (pointer ++ "/oneOf" ++ "/" ++ toString i) s
  /-- What some of which apply. -/
  | anyOf {i : Nat} {s : Schema} (h : p.anyOf[i]? = some s) :
      Holds p pointer (pointer ++ "/anyOf" ++ "/" ++ toString i) s
  /-- The schema of the items. -/
  | items : Holds p pointer (pointer ++ "/items") p.items
  /-- The schema of a property. -/
  | property {e : String × Schema} (h : e ∈ p.properties) :
      Holds p pointer (pointer ++ "/properties/" ++ Pointer.escape e.1) e.2
  /-- The schema of all other properties. -/
  | additional : Holds p pointer (pointer ++ "/additionalProperties") p.additional

/-- Induction over a schema: what passes from the schemas inside a schema to the schema holds of
every schema. -/
theorem induction_on_parts {P : Schema → Prop} (missing : P .missing)
    (reference : ∀ target, P (.reference target))
    (inline : ∀ facts (p : Parts), (∀ pointer place s, p.Holds pointer place s → P s) →
      P (ofParts facts p)) (s : Schema) : P s := by
  refine @Schema.rec P (fun ss => ∀ s ∈ ss, P s) (fun es => ∀ e ∈ es, P e.2) (fun e => P e.2)
    missing reference ?_ (fun _ h => absurd h List.not_mem_nil)
    (fun _ _ h hrest => List.forall_mem_cons.2 ⟨h, hrest⟩) (fun _ h => absurd h List.not_mem_nil)
    (fun _ _ h hrest => List.forall_mem_cons.2 ⟨h, hrest⟩) (fun _ _ h => h) s
  intro facts allOf oneOf anyOf items properties additional hallOf honeOf hanyOf hitems
    hproperties hadditional
  refine inline facts ⟨allOf, oneOf, anyOf, items, properties, additional⟩ ?_
  intro pointer place s hs
  cases hs with
  | allOf h => exact hallOf _ (List.mem_of_getElem? h)
  | oneOf h => exact honeOf _ (List.mem_of_getElem? h)
  | anyOf h => exact hanyOf _ (List.mem_of_getElem? h)
  | items => exact hitems
  | property h => exact hproperties _ h
  | additional => exact hadditional

end Schema

/-- A schema that is read at a pointer: from what stands there, or from nothing, where an object
could have a schema and has none. -/
inductive Placed (root : ObjectKind) (doc : Value) (pointer : String) : Schema → Prop where
  /-- Something stands there. -/
  | read {v : Value} (h : Stands root doc (.orReference .schema) pointer v) :
      Placed root doc pointer (Schema.read v)
  /-- The field is not there. -/
  | nothing {kind : ObjectKind} {base word : String} {form : Form} {v : Value}
      (h : Stands root doc (.object kind) base v) (hform : (word, form) ∈ kind.fields)
      (hschema : form = .orReference .schema ∨ form = .additional)
      (hpointer : pointer = base ++ "/" ++ Pointer.escape word)
      (hnone : Field.all word v.entries = []) : Placed root doc pointer .missing

namespace Placed

variable {root kind : ObjectKind} {doc v : Value} {form : Form} {pointer word step : String}

theorem of_foldl {change : Schema → Value → Schema}
    (hchange : ∀ s v, change s v = s ∨ change s v = Schema.read v)
    (hfirst : ∀ v, change .missing v = Schema.read v)
    (h : Stands root doc (.object kind) pointer v) (hform : (word, form) ∈ kind.fields)
    (hschema : form = .orReference .schema ∨ form = .additional)
    (hstep : "/" ++ Pointer.escape word = step) :
    Placed root doc (pointer ++ step) ((Field.all word v.entries).foldl change .missing) := by
  rcases Schema.foldl_cases hchange hfirst (Field.all word v.entries) with
    ⟨hnone, hmissing⟩ | ⟨w, hw, hread⟩
  · rw [hmissing]
    exact .nothing h hform hschema (by rw [← hstep, String.append_assoc]) hnone
  · rw [hread]
    have hstands := h.field hform hstep hw
    rcases hschema with rfl | rfl
    · exact .read hstands
    · obtain ⟨path, hlocated⟩ := hstands
      exact .read ⟨path, hlocated.additional⟩

theorem ofField (h : Stands root doc (.object kind) pointer v)
    (hform : (word, .orReference .schema) ∈ kind.fields)
    (hstep : "/" ++ Pointer.escape word = step) :
    Placed root doc (pointer ++ step) (Schema.ofField word v.entries) :=
  of_foldl (fun _ _ => Schema.overlaidBy_cases _ _)
    (fun v => by cases Schema.read v <;> rfl) h hform (.inl rfl) hstep

/-- A schema that is written in place has been read from a mapping. -/
theorem exists_mapping {facts : SchemaFacts} {p : Schema.Parts}
    (h : Placed root doc pointer (.ofParts facts p)) :
    ∃ es, Stands root doc (.object .schema) pointer (.mapping es) ∧
      facts = Schema.factsOf es ∧ p = Schema.readParts {} es := by
  generalize hs : Schema.ofParts facts p = s at h
  cases h with
  | nothing => cases hs
  | @read v h =>
      cases v with
      | mapping es =>
          rw [Schema.read] at hs
          split at hs
          · cases hs
          case h_2 htarget =>
            exact ⟨es, h.inline htarget, Schema.ofParts_inj hs⟩
      | _ => cases hs

/-- The schemas inside a schema are read where it holds them. -/
theorem of_holds (h : Stands root doc (.object .schema) pointer v) {place : String} {s : Schema}
    (hs : (Schema.readParts {} v.entries).Holds pointer place s) : Placed root doc place s := by
  have hlisted : ∀ {word : String} {ss : List Schema} {i : Nat} {s : Schema},
      (word, Form.list (.orReference .schema)) ∈ ObjectKind.schema.fields →
      ∀ {step : String}, "/" ++ Pointer.escape word = step →
      ss = (Field.list word v.entries).map Schema.read → ss[i]? = some s →
      Placed root doc (pointer ++ step ++ "/" ++ toString i) s := by
    rintro word _ i s hform step hstep rfl hs
    rw [List.getElem?_map] at hs
    obtain ⟨w, hw, rfl⟩ := Option.map_eq_some_iff.1 hs
    exact .read (h.listed hform hstep hw)
  cases hs with
  | allOf hs => exact hlisted (by decide) (by decide) (Schema.allOf_readParts _) hs
  | oneOf hs => exact hlisted (by decide) (by decide) (Schema.oneOf_readParts _) hs
  | anyOf hs => exact hlisted (by decide) (by decide) (Schema.anyOf_readParts _) hs
  | items =>
      rw [Schema.items_readParts]
      exact .ofField h (by decide) (by decide)
  | property hs =>
      rw [Schema.properties_readParts] at hs
      obtain ⟨⟨key, w⟩, hw, rfl⟩ := List.mem_map.1 hs
      have hform : ("properties", Form.dict (.orReference .schema)) ∈ ObjectKind.schema.fields := by
        decide
      exact .read (h.entered hform (by decide) hw)
  | additional =>
      rw [Schema.additional_readParts]
      exact of_foldl (fun s w => Schema.addedBy_cases s _ w) (fun w => Schema.missing_addedBy _ w)
        h (by decide) (.inr rfl) (by decide)

end Placed

end TypedClient
