import TypedClient.Proofs.Draft.Naming

/-!
# Binding names

The names of models, services, operations and parameters are declared in the generated code. What
is declared there is an identifier that is not reserved; `named_binding_names` says that every name
of a named draft is one, whatever characters the description uses. A reserved word can appear when
a name is put together, in lower case or from a ligature; it is told from all names that are
handed out by holding nothing but lower case letters of ASCII.
-/

namespace TypedClient

namespace Naming

/-- Whether a character may stand behind the first one of a declared name: a letter, a digit, a
diacritical mark or an underscore. -/
def continuesName (c : Char) : Bool :=
  isWordChar c || Unicode.isDiacritic c || c = '_'

/-- Whether a name may be declared: it starts with a letter, goes on with letters, digits, marks
and underscores, and is not reserved. -/
def isBindingName (name : String) : Bool :=
  isShaped Unicode.isLetter continuesName name && !isReserved name

variable {base name more fallback s : String}

theorem isBindingName_iff :
    isBindingName name = true ↔
      isShaped Unicode.isLetter continuesName name = true ∧ isReserved name = false := by
  rw [isBindingName, Bool.and_eq_true, Bool.not_eq_true']

/-! ## Characters -/

theorem continuesName_of_isWordChar {c : Char} (h : isWordChar c = true) :
    continuesName c = true := by
  rw [continuesName, h, Bool.true_or, Bool.true_or]

/-- The letters of ASCII are letters. -/
theorem isLetter_of_isAlpha {c : Char} (h : c.isAlpha = true) : Unicode.isLetter c = true := by
  have hascii : c.val < 0x80 := toNat_lt_of_isAlphanum (by rw [Char.isAlphanum, h, Bool.true_or])
  rw [Unicode.isLetter, if_pos hascii, h]

/-- The digits of ASCII are digits. -/
theorem isDigit_of_isDigit {c : Char} (h : c.isDigit = true) : Unicode.isDigit c = true := by
  have hascii : c.val < 0x80 := toNat_lt_of_isAlphanum (by rw [Char.isAlphanum, h, Bool.or_true])
  rw [Unicode.isDigit, if_pos hascii, h]

theorem isWordChar_of_isDigit {c : Char} (h : c.isDigit = true) : isWordChar c = true := by
  rw [isWordChar, isDigit_of_isDigit h, Bool.or_true]

/-- Names of types start with a letter and go on as declared names do. -/
theorem alphabet_isLetter : Alphabet Unicode.isLetter continuesName where
  head := by
    intro c hc
    obtain ⟨d, tail, htitle, hd, -⟩ := Unicode.exists_title (.inl hc)
    refine ⟨d, tail, htitle, ?_⟩
    rcases hd with rfl | hd
    · exact hc
    · exact hd
  title := by
    intro c hc
    obtain ⟨d, tail, htitle, hd, htail⟩ := Unicode.exists_title (Bool.or_eq_true_iff.1 hc)
    rw [htitle, List.forall_mem_cons]
    refine ⟨?_, fun e he => ?_⟩
    · rcases hd with rfl | hd
      · exact continuesName_of_isWordChar hc
      · exact continuesName_of_isWordChar (by rw [isWordChar, hd, Bool.true_or])
    · rcases htail e he with hletter | hmark
      · exact continuesName_of_isWordChar (by rw [isWordChar, hletter, Bool.true_or])
      · rw [continuesName, hmark, Bool.or_true, Bool.true_or]
  word := fun _ => continuesName_of_isWordChar
  underscore := by decide

/-- A text in `camelCase` is shaped like a declared name, or it is empty. -/
theorem isShaped_camel (h : camel s ≠ "") :
    isShaped Unicode.isLetter continuesName (camel s) = true := by
  have hpascal : pascal s ≠ "" := by
    intro hempty
    have hchars : pascalChars s.toList = [] := by
      rw [← String.toList_ofList (l := pascalChars s.toList), ← pascal, hempty]
      rfl
    exact h (by rw [camel, hchars, uncapitalize])
  obtain ⟨c, tail, hname, hstart, htail⟩ :=
    isShaped_iff.1 (alphabet_isLetter.isShaped_pascal hpascal)
  rw [pascal, String.toList_ofList] at hname
  refine isShaped_iff.2 ⟨Unicode.lower c, tail, ?_, Unicode.isLetter_lower hstart, htail⟩
  rw [camel, String.toList_ofList, hname, uncapitalize]

/-- An operation is named after its identifier, or after its method and path. -/
theorem exists_operationName (id method path : String) :
    ∃ s, operationName id method path = camel s := by
  dsimp only [operationName]
  split
  · exact ⟨_, rfl⟩
  · exact ⟨id, rfl⟩

/-! ## Reserved words -/

/-- Reserved words hold nothing but lower case letters of ASCII. -/
theorem isLower_of_isReserved (h : isReserved name = true) :
    ∀ c ∈ name.toList, c.isLower = true := by
  have hwords : reservedWords.all (fun w => w.toList.all Char.isLower) = true := by decide
  exact List.all_eq_true.1 (List.all_eq_true.1 hwords name (List.contains_iff_mem.1 h))

/-- A text with any other character in it is not reserved. -/
theorem isReserved_eq_false {c : Char} (hc : c ∈ name.toList) (h : c.isLower = false) :
    isReserved name = false := by
  rw [Bool.eq_false_iff]
  intro hreserved
  rw [isLower_of_isReserved hreserved c hc] at h
  exact Bool.noConfusion h

theorem isReserved_escapeReserved (s : String) : isReserved (escapeReserved s) = false := by
  unfold escapeReserved
  split
  case isFalse h => exact Bool.eq_false_iff.2 h
  case isTrue =>
    refine isReserved_eq_false (c := '_') ?_ (by decide)
    rw [String.toList_append]
    exact List.mem_append_right _ (by decide)

/-! ## Binding names -/

/-- A name that is asked for may be declared when what it is taken from is shaped like a declared
name. -/
theorem isBindingName_orElse (hname : name ≠ "" →
      isShaped Unicode.isLetter continuesName name = true)
    (hfallback : isBindingName fallback = true) :
    isBindingName (orElse (escapeReserved name) fallback) = true := by
  obtain ⟨hshaped, hreserved⟩ := isBindingName_iff.1 hfallback
  refine isBindingName_iff.2 ⟨alphabet_isLetter.isShaped_orElse hname hshaped, ?_⟩
  unfold orElse
  split
  · exact hreserved
  · exact isReserved_escapeReserved name

/-- A number keeps a name one that may be declared. -/
theorem NumberedFrom.isBindingName (h : NumberedFrom base name)
    (hbase : isBindingName base = true) : Naming.isBindingName name = true := by
  obtain ⟨hshaped, hreserved⟩ := isBindingName_iff.1 hbase
  refine isBindingName_iff.2 ⟨h.isShaped (fun c hc =>
    continuesName_of_isWordChar (isWordChar_of_isDigit hc)) hshaped, ?_⟩
  obtain ⟨more, rfl, hmore⟩ := h.exists_digits
  cases hdigits : more.toList with
  | nil => rw [String.toList_eq_nil_iff.1 hdigits, String.append_empty, hreserved]
  | cons c tail =>
      have hc : c ∈ more.toList := hdigits ▸ List.mem_cons_self
      refine isReserved_eq_false (c := c) ?_ ?_
      · rw [String.toList_append]
        exact List.mem_append_right _ hc
      · have hdigit := hmore c hc
        have hbounds : 'a'.val.toNat = 0x61 ∧ '9'.val.toNat = 0x39 := by decide
        simp only [Char.isDigit, Bool.and_eq_true, decide_eq_true_eq,
          UInt32.le_iff_toNat_le] at hdigit
        simp only [isLower_eq, Bool.and_eq_false_iff, decide_eq_false_iff_not,
          UInt32.le_iff_toNat_le]
        omega

theorem isBindingName_typeBase (s : String) (hfallback : isBindingName fallback = true) :
    isBindingName (typeBase s fallback) = true :=
  isBindingName_orElse alphabet_isLetter.isShaped_pascal hfallback

theorem isBindingName_operationBase (op : Operation) : isBindingName (operationBase op) = true := by
  obtain ⟨s, hs⟩ := exists_operationName op.id op.method.label op.path
  rw [operationBase, hs]
  exact isBindingName_orElse isShaped_camel (by decide)

/-- Names that are handed out may be declared when those that are asked for may. -/
theorem isBindingName_reserveAll {ns : Namespace} {bases : List String}
    (h : ∀ base ∈ bases, isBindingName base = true) :
    ∀ name ∈ (ns.reserveAll bases).1, isBindingName name = true := by
  intro name hname
  obtain ⟨base, hbase, hnumbered⟩ := ns.numberedFrom_reserveAll bases name hname
  exact hnumbered.isBindingName (h base hbase)

theorem isBindingName_nameParameters (parameters : List Parameter) :
    ∀ p ∈ nameParameters parameters, isBindingName p.exportName = true := by
  intro p hp
  have hname := List.mem_map_of_mem (f := Parameter.exportName) hp
  rw [names_nameParameters] at hname
  refine isBindingName_reserveAll (List.forall_mem_map.2 (fun p _ => ?_)) _ hname
  exact isBindingName_orElse isShaped_camel (by decide)

/-- The operations of a service and their parameters get names that may be declared. -/
theorem isBindingName_namedOperations (operations : List Operation) :
    ∀ op ∈ namedOperations operations, isBindingName op.name = true ∧
      ∀ p ∈ op.parameters, isBindingName p.exportName = true := by
  intro op hop
  constructor
  · have hname := List.mem_map_of_mem (f := Operation.name) hop
    rw [names_namedOperations] at hname
    exact isBindingName_reserveAll
      (List.forall_mem_map.2 (fun op _ => isBindingName_operationBase op)) _ hname
  · have hparameters := List.mem_map_of_mem (f := Operation.parameters) hop
    rw [parameters_namedOperations] at hparameters
    obtain ⟨u, -, hu⟩ := List.mem_map.1 hparameters
    rw [← hu]
    exact isBindingName_nameParameters u.parameters

end Naming

namespace Draft

open Naming (isBindingName)

variable {d named : Draft}

/-- Every model, service, operation and parameter of a named draft has a name that may be declared
in the generated code. An entry of the list of models is a model. -/
theorem named_binding_names (h : d.named = .ok named)
    (hpresent : ∀ m ∈ d.models, m.isAbsent = false) :
    (∀ m ∈ named.models, isBindingName m.name = true) ∧
      ∀ s ∈ named.services, isBindingName s.name = true ∧
        ∀ op ∈ s.operations, isBindingName op.name = true ∧
          ∀ p ∈ op.parameters, isBindingName p.exportName = true := by
  constructor
  · intro m hm
    have hname := List.mem_map_of_mem (f := Model.name) hm
    rw [names_named h hpresent] at hname
    obtain ⟨n, -, hbase⟩ := numberedFrom_modelNames hname
    exact hbase.isBindingName (Naming.isBindingName_typeBase _ (by decide))
  · intro s hs
    constructor
    · obtain ⟨tag, hbase⟩ := numberedFrom_service h hs
      exact hbase.isBindingName (Naming.isBindingName_typeBase tag (by decide))
    · obtain ⟨-, rfl⟩ := named_eq_ok_iff.1 h
      have hoperations := List.mem_map_of_mem (f := Service.operations) hs
      rw [Naming.operations_nameServices] at hoperations
      obtain ⟨u, -, hu⟩ := List.mem_map.1 hoperations
      rw [← hu]
      exact Naming.isBindingName_namedOperations u.operations

/-- A draft whose texts give nothing to name by, a reserved word in lower case or one from a
ligature. -/
def unruly : Draft where
  models :=
    [.leaf { kind := .generic, type := "string", pointer := "#/a", sourceName := "" },
     .leaf { kind := .generic, type := "string", pointer := "#/b", sourceName := "2 ŉ-gram" }]
  services :=
    [{ tag := "1."
       operations := [{ id := "Delete", parameters := [{ name := "ﬁnally" }, { name := "$" }] },
         { method := .get, path := "/\x7bin\x7d" }] }]

/-- `unruly` gets names as `named_binding_names` says. -/
theorem named_binding_names_unruly :
    ∃ named, unruly.named = .ok named ∧
      named.models.map Model.name = ["Model", "ʼNGram"] ∧
      named.services.map (fun s => (s.name, s.operations.map (fun op =>
        (op.name, op.parameters.map Parameter.exportName)))) =
        [("Default", [("delete_", ["finally_", "param"]), ("getByIn", [])])] ∧
      (∀ m ∈ named.models, isBindingName m.name = true) ∧
      ∀ s ∈ named.services, isBindingName s.name = true ∧
        ∀ op ∈ s.operations, isBindingName op.name = true ∧
          ∀ p ∈ op.parameters, isBindingName p.exportName = true :=
  have h := named_eq_ok_iff.2 ⟨by decide, rfl⟩
  ⟨_, h, by decide +kernel, by decide +kernel, named_binding_names h (by decide)⟩

end Draft

end TypedClient
