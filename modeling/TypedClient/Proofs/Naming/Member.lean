import TypedClient.Proofs.Document.Display
import TypedClient.Proofs.Naming.Binding

/-!
# Names of enum members

The member of an enum stands in the generated code under a name of its own, under one for its
value, or under one that is spelled from a text. The spelling sets an underscore before a digit of
ASCII and before no other digit; `named_members` says that this is all that can go wrong: a member
gets a name that starts with a digit exactly when the text that it is spelled from leads with a
digit beyond ASCII.
-/

namespace TypedClient

namespace EnumMember

/-- Whether the value of a member is anything but an infinite number or a NaN. -/
def hasFiniteValue (e : EnumMember) : Bool :=
  match e.value with
  | .float x => x.isFinite
  | _ => true

/-- The text that the name of a member is spelled from: its own name when that is no identifier,
or the text of its value when it has no name. Null, truth values and numbers have fixed names. -/
def spelledFrom? (e : EnumMember) : Option String :=
  if e.name = "" then
    match e.value with
    | .null | .bool _ | .int _ | .float _ => none
    | v => some v.display
  else if Naming.isIdentifier e.name then none
  else some e.name

end EnumMember

namespace Naming

/-- Whether a character may start the name of a member. -/
def startsMember (c : Char) : Bool :=
  Unicode.isLetter c || c = '_' || c = '$'

/-- Whether a character may stand behind the first one of the name of a member. -/
def continuesMember (c : Char) : Bool :=
  isWordChar c || c = '_' || c = '$'

/-- Whether a text is an identifier that can name the member of an enum. -/
def isMemberName (name : String) : Bool :=
  isShaped startsMember continuesMember name

/-- Whether the first letter or digit of a text is a digit beyond ASCII. -/
def leadsWithWideDigit (s : String) : Bool :=
  (s.toList.find? isWordChar).any (fun c => Unicode.isDigit c && !c.isDigit)

variable {base name s : String} {c : Char}

/-! ## Characters -/

theorem continuesMember_of_isWordChar (h : isWordChar c = true) : continuesMember c = true := by
  rw [continuesMember, h, Bool.true_or, Bool.true_or]

theorem startsMember_of_isLetter (h : Unicode.isLetter c = true) : startsMember c = true := by
  rw [startsMember, h, Bool.true_or, Bool.true_or]

/-- No digit starts the name of a member. -/
theorem startsMember_of_isDigit (h : Unicode.isDigit c = true) : startsMember c = false := by
  rw [startsMember, Unicode.isLetter_of_isDigit h, Bool.false_or, Bool.or_eq_false_iff,
    decide_eq_false_iff_not, decide_eq_false_iff_not]
  constructor <;> rintro rfl <;> exact absurd h (by decide)

/-- The upper case form of a character of a word is one. -/
theorem isWordChar_upper (h : isWordChar c = true) : isWordChar (Unicode.upper c) = true := by
  rcases Bool.or_eq_true_iff.1 h with hletter | hdigit
  · rw [isWordChar, Unicode.isLetter_upper hletter, Bool.true_or]
  · rw [Unicode.upper_of_isDigit hdigit, h]

/-- A plain identifier can name a member. -/
theorem isMemberName_of_isIdentifier (h : isIdentifier name = true) :
    isMemberName name = true := by
  obtain ⟨d, tail, hname, hstart, htail⟩ :=
    isShaped_iff.1 (show isShaped isIdentifierStart isIdentifierRest name = true from h)
  refine isShaped_iff.2 ⟨d, tail, hname, ?_, fun e he => ?_⟩
  · simp only [isIdentifierStart, startsMember, Bool.or_eq_true] at hstart ⊢
    exact hstart.imp_left (Or.imp_left isLetter_of_isAlpha)
  · have hrest := htail e he
    simp only [isIdentifierRest, Char.isAlphanum, continuesMember, isWordChar,
      Bool.or_eq_true] at hrest ⊢
    exact hrest.imp_left (Or.imp_left (Or.imp isLetter_of_isAlpha isDigit_of_isDigit))

/-! ## Names of texts -/

/-- The name of a text goes on with letters, digits and underscores. -/
theorem continuesMember_of_mem_enumKeyChars (started parted lowered : Bool) (s : List Char) :
    ∀ c ∈ enumKeyChars started parted lowered s, continuesMember c = true := by
  induction s generalizing started parted lowered with
  | nil => exact fun _ hc => nomatch hc
  | cons d rest ih =>
      rw [enumKeyChars]
      split
      case isFalse => exact ih _ _ _
      case isTrue hword =>
        have hnext : ∀ {l : List Char}, (∀ c ∈ l, continuesMember c = true) →
            ∀ c ∈ Unicode.upper d :: l, continuesMember c = true := fun hl =>
          List.forall_mem_cons.2 ⟨continuesMember_of_isWordChar (isWordChar_upper hword), hl⟩
        dsimp only
        split
        · exact List.forall_mem_cons.2 ⟨by decide, hnext (ih _ _ _)⟩
        · exact hnext (ih _ _ _)

/-- The name of a text starts with the upper case form of its first letter or digit. -/
theorem head?_enumKeyChars (parted lowered : Bool) (s : List Char) :
    (enumKeyChars false parted lowered s).head? = (s.find? isWordChar).map Unicode.upper := by
  induction s generalizing parted lowered with
  | nil => rfl
  | cons d rest ih =>
      rw [enumKeyChars]
      cases hword : isWordChar d with
      | true => simp [hword]
      | false =>
          rw [if_neg Bool.false_ne_true, List.find?_cons_of_neg (by simp [hword])]
          exact ih false false

/-- What goes on as the name of a member does is one when it starts as one does. -/
theorem isMemberName_ofList {tail : List Char} (h : ∀ d ∈ tail, continuesMember d = true) :
    isMemberName (String.ofList (c :: tail)) = startsMember c := by
  rw [isMemberName, isShaped, String.toList_ofList]
  dsimp only
  rw [List.all_eq_true.2 h, Bool.and_true]

/-- The name of a text can name a member unless the text leads with a digit beyond ASCII. -/
theorem isMemberName_enumKeyOfText (s : String) :
    isMemberName (enumKeyOfText s) = !leadsWithWideDigit s := by
  have hhead := head?_enumKeyChars false false s.toList
  have hchars := continuesMember_of_mem_enumKeyChars false false false s.toList
  rw [enumKeyOfText, leadsWithWideDigit]
  cases hfind : s.toList.find? isWordChar with
  | none =>
      rw [hfind, Option.map_none, List.head?_eq_none_iff] at hhead
      rw [hhead]
      decide
  | some d =>
      rw [hfind, Option.map_some, List.head?_eq_some_iff] at hhead
      obtain ⟨tail, hsplit⟩ := hhead
      rw [hsplit] at hchars ⊢
      have htail := (List.forall_mem_cons.1 hchars).2
      have hmarked : isMemberName (String.ofList ('_' :: Unicode.upper d :: tail)) = true := by
        rw [isMemberName_ofList hchars]
        decide
      rw [Option.any_some]
      dsimp only
      have hword : isWordChar d = true := List.find?_some hfind
      rcases Bool.or_eq_true_iff.1 hword with hletter | hdigit
      · have hnone : Unicode.isDigit d = false := by
          rw [Bool.eq_false_iff]
          intro hdigit
          rw [Unicode.isLetter_of_isDigit hdigit] at hletter
          exact Bool.noConfusion hletter
        rw [hnone, Bool.false_and, Bool.not_false]
        split
        · exact hmarked
        · rw [isMemberName_ofList htail, startsMember_of_isLetter (Unicode.isLetter_upper hletter)]
      · rw [Unicode.upper_of_isDigit hdigit] at hmarked ⊢
        rw [hdigit, Bool.true_and, Bool.not_not]
        split
        case isTrue hascii => rw [hmarked, hascii]
        case isFalse hwide =>
          rw [isMemberName_ofList htail, startsMember_of_isDigit hdigit,
            Bool.eq_false_iff.2 hwide]

/-! ## Names of numbers -/

/-- A text of digits, signs and points gives the name of a member. -/
theorem isMemberName_enumKeyOfNumber
    (h : ∀ c ∈ s.toList, c = '-' ∨ c = '.' ∨ c.isDigit = true) :
    isMemberName (enumKeyOfNumber s) = true := by
  rw [enumKeyOfNumber, isMemberName_ofList]
  · decide
  · intro d hd
    obtain ⟨c, hc, hd⟩ := List.mem_flatMap.1 hd
    split_ifs at hd with hsign hpoint
    · have hall : "MINUS_".toList.all continuesMember = true := by decide
      exact List.all_eq_true.1 hall d hd
    · rw [List.mem_singleton.1 hd]
      decide
    · rw [List.mem_singleton.1 hd]
      exact continuesMember_of_isWordChar
        (isWordChar_of_isDigit (((h c hc).resolve_left hsign).resolve_left hpoint))

/-- The text of a whole number has digits and at most a sign. -/
theorem mem_toString_int {n : Int} (h : c ∈ (toString n).toList) :
    c = '-' ∨ c.isDigit = true := by
  rw [Value.toList_toString_int] at h
  rcases List.mem_append.1 h with hsign | hdigit
  · exact .inl (Layout.eq_of_mem_signText hsign)
  · exact .inr (Nat.isDigit_of_mem_toDigits (by decide) (by decide) hdigit)

/-- The text of a finite number by position has digits, a sign and a point. -/
theorem mem_number_plain {x : Binary64} (hx : x.isFinite = true)
    (h : c ∈ (Layout.plain.number x).toList) : c = '-' ∨ c = '.' ∨ c.isDigit = true := by
  rw [Layout.toList_number _ hx] at h
  rcases List.mem_append.1 h with hsign | hdecimal
  · exact .inl (Layout.eq_of_mem_signText hsign)
  · right
    unfold Layout.decimal at hdecimal
    split at hdecimal
    · rw [List.mem_singleton.1 hdecimal]
      exact .inr (by decide)
    · rcases Layout.mem_byPosition hdecimal with hdigit | rfl | rfl
      · exact .inr (Nat.isDigit_of_mem_toDigits (by decide) (by decide) hdigit)
      · exact .inr (by decide)
      · exact .inl rfl

/-! ## Names of members -/

/-- The name that a member asks for can name it unless it is spelled from a text that leads with a
digit beyond ASCII. -/
theorem isMemberName_memberBase {e : EnumMember} (h : e.hasFiniteValue = true) :
    isMemberName (memberBase e) = true ↔
      ∀ s, e.spelledFrom? = some s → leadsWithWideDigit s = false := by
  have htext : ∀ text, (isMemberName (enumKeyOfText text) = true ↔
      ∀ s, some text = some s → leadsWithWideDigit s = false) := by
    intro text
    rw [isMemberName_enumKeyOfText, Bool.not_eq_true']
    simp only [Option.some.injEq, forall_eq']
  have hfixed : ∀ {name}, isMemberName name = true → (isMemberName name = true ↔
      ∀ s, (none : Option String) = some s → leadsWithWideDigit s = false) :=
    fun hname => iff_of_true hname (fun _ hs => nomatch hs)
  rw [EnumMember.hasFiniteValue] at h
  rw [memberBase, EnumMember.spelledFrom?]
  by_cases hnone : e.name = ""
  · rw [if_pos hnone, if_pos hnone]
    cases hvalue : e.value with
    | null => exact hfixed (by decide)
    | bool b => exact hfixed (by cases b <;> decide)
    | int n => exact hfixed (isMemberName_enumKeyOfNumber (fun c hc =>
        (mem_toString_int hc).imp_right .inr))
    | float x =>
        rw [hvalue] at h
        exact hfixed (isMemberName_enumKeyOfNumber (fun c hc => mem_number_plain h hc))
    | int64 n => exact htext _
    | uint n => exact htext _
    | text s => exact htext s
    | list items => exact htext _
    | mapping entries => exact htext _
  · rw [if_neg hnone, if_neg hnone]
    by_cases hown : isIdentifier e.name = true
    · rw [if_pos hown, if_pos hown]
      exact hfixed (isMemberName_of_isIdentifier hown)
    · rw [if_neg hown, if_neg hown]
      exact htext e.name

/-- A number makes no difference to whether a text can name a member. -/
theorem NumberedFrom.isMemberName_iff (h : NumberedFrom base name) :
    isMemberName name = true ↔ isMemberName base = true := by
  have hdigit : ∀ c : Char, c.isDigit = true →
      startsMember c = false ∧ continuesMember c = true := fun c hc =>
    ⟨startsMember_of_isDigit (isDigit_of_isDigit hc),
      continuesMember_of_isWordChar (isWordChar_of_isDigit hc)⟩
  refine ⟨fun hname => ?_, fun hbase => h.isShaped (fun c hc => (hdigit c hc).2) hbase⟩
  obtain ⟨more, rfl, hmore⟩ := h.exists_digits
  obtain ⟨c, tail, hsplit, hstart, htail⟩ := isShaped_iff.1 hname
  rw [String.toList_append] at hsplit
  cases hbase : base.toList with
  | nil =>
      -- nothing but digits would be left, and none of them starts a name
      rw [hbase, List.nil_append] at hsplit
      rw [(hdigit c (hmore c (hsplit ▸ List.mem_cons_self))).1] at hstart
      exact Bool.noConfusion hstart
  | cons d rest =>
      rw [hbase, List.cons_append] at hsplit
      obtain ⟨rfl, rfl⟩ := List.cons.inj hsplit
      exact isShaped_iff.2 ⟨d, rest, hbase, hstart,
        fun e he => htail e (List.mem_append_left _ he)⟩

/-- Each member of an enum gets the name that it asks for, or that name with a number. -/
theorem forall₂_nameMembers (members : List EnumMember) :
    List.Forall₂ (fun e e' => NumberedFrom (memberBase e) e'.name) members
      (nameMembers members) := by
  have hnames := Namespace.forall₂_reserveAll {} (members.map memberBase)
  rwa [← names_nameMembers, List.forall₂_map_left_iff, List.forall₂_map_right_iff] at hnames

end Naming

namespace Draft

open Naming (isMemberName leadsWithWideDigit)

variable {d named : Draft}

/-- The nodes of a named draft stand in the order of the nodes of the draft, with their members
named. -/
theorem forall₂_enum_named (h : d.named = .ok named) :
    List.Forall₂ (fun t t' => t.kind = .enum → t'.enum = Naming.nameMembers t.enum)
      d.nodes named.nodes := by
  have hparts := parts_named h Traits.enum (fun _ _ => rfl)
  rw [← List.forall₂_eq_eq_eq, List.forall₂_map_left_iff, List.forall₂_map_right_iff] at hparts
  refine hparts.flip.imp (fun t t' henum hkind => ?_)
  rw [henum, nameNode, hkind]

/-- In a named draft, the member of an enum with a finite value has a name that is an identifier
exactly when it is not spelled from a text that leads with a digit beyond ASCII. -/
theorem named_members (h : d.named = .ok named) :
    List.Forall₂ (fun t t' => t.kind = .enum →
        List.Forall₂ (fun e e' => e.hasFiniteValue = true →
          (isMemberName e'.name = true ↔
            ∀ s, e.spelledFrom? = some s → leadsWithWideDigit s = false)) t.enum t'.enum)
      d.nodes named.nodes := by
  refine (forall₂_enum_named h).imp (fun t t' henum hkind => ?_)
  rw [henum hkind]
  refine (Naming.forall₂_nameMembers t.enum).imp (fun e e' hname hfinite => ?_)
  rw [hname.isMemberName_iff, Naming.isMemberName_memberBase hfinite]

/-- A draft with an enum of a number, of texts that lead with digits, and of members that have
names. -/
def numbered : Draft where
  models :=
    [.leaf
      { kind := .enum, pointer := "#/a", sourceName := "Size"
        enum :=
          [{ value := .float ⟨0xBFF8000000000000⟩ }, { value := .text "1st" },
            { value := .text "- 1st" }, { value := .text "٣" },
            { value := .null, name := "$ref" }, { value := .null, name := "٣ items" }] }]

/-- `numbered` gets names as `named_members` says. -/
theorem named_members_numbered :
    ∃ named, numbered.named = .ok named ∧
      named.nodes.map (fun t => t.enum.map EnumMember.name) =
        [["_MINUS_1_5", "_1ST", "_1ST1", "٣", "$ref", "٣_ITEMS"]] ∧
      List.Forall₂ (fun t t' => t.kind = .enum →
          List.Forall₂ (fun e e' => e.hasFiniteValue = true →
            (isMemberName e'.name = true ↔
              ∀ s, e.spelledFrom? = some s → leadsWithWideDigit s = false)) t.enum t'.enum)
        numbered.nodes named.nodes :=
  have h := named_eq_ok_iff.2 ⟨by decide, rfl⟩
  ⟨_, h, by decide +kernel, named_members h⟩

/-- The enum of the one value `٣`, a digit. -/
def threes : Draft where
  models :=
    [.leaf
      { kind := .enum, pointer := "#/a", sourceName := "Size"
        enum := [{ value := .text "٣" }] }]

/-- The member for the value `٣` is named like the value, and this is no identifier. -/
theorem member_named_by_digit :
    ∃ named, threes.named = .ok named ∧
      named.nodes.map (fun t => (t.kind, t.enum.map EnumMember.name)) = [(.enum, ["٣"])] ∧
      isMemberName "٣" = false :=
  ⟨_, named_eq_ok_iff.2 ⟨by decide, rfl⟩, by decide +kernel⟩

end Draft

end TypedClient
