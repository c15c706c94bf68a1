import TypedClient.Proofs.TypeScript.Comment
import TypedClient.Proofs.TypeScript.TemplateLiteral

/-!
# Outlines of code

The outline of a code is what stands outside of its literals and comments; of each of those it has
the marks that open and close it. Two codes with one outline differ inside of their literals and
comments only. Outlines are put together like the codes, as `SameOutline.append` says, and whatever
is read as a literal has the outline of one, whatever its value is.
-/

namespace TypedClient.TypeScript

/-- What a character of a code stands in. -/
inductive Zone where
  | code
  /-- A slash that has to start a comment. -/
  | slash
  /-- A comment. -/
  | remark
  /-- A comment behind a star. -/
  | star
  /-- A string literal. -/
  | text (quote : Char) (q : Reading)
  /-- A template literal. -/
  | template (q : Cooking)
deriving DecidableEq

namespace Zone

/-- The marks that open a literal or a comment. -/
def marks : List Char :=
  ['"', '\x27', '\x60', '/']

/-- What a character of code opens, if anything. -/
def opened (c : Char) : Zone :=
  if c = '"' || c = '\x27' then text c .inside
  else if c = '\x60' then template .inside
  else if c = '/' then slash
  else code

/-- One more character, as far as it belongs to the outline. -/
def step : Zone → Char → Option (List Nat × Zone)
  | code, c => some ([c.toNat], opened c)
  | slash, c => if c = '*' then some ([], remark) else none
  | remark, c => some ([], if c = '*' then star else remark)
  | star, c =>
      some (if c = '/' then ([c.toNat], code) else ([], if c = '*' then star else remark))
  | text quote q, c => (q.step quote c).map (fun r =>
      if r.2 = .ended then ([quote.toNat], code) else ([], text quote r.2))
  | template q, c => (q.step c).map (fun r =>
      if r.2 = .ended then ([0x60], code) else ([], template r.2))

end Zone

/-- The outline of a code, as code points, if all of its literals and comments are closed and no
template has a substitution. -/
def outline? (s : String) : Option (List Nat) :=
  match transduce Zone.step .code s.toList with
  | some (us, .code) => some us
  | _ => none

example : outline? "f('it\\'s', \"/*\"); /* ' */" = outline? "f('', \"\"); /**/" := by decide +kernel

/-- Two codes differ inside of their literals and comments only. -/
def SameOutline (s t : String) : Prop :=
  ∃ us, outline? s = some us ∧ outline? t = some us

variable {s s' t t' : String} {us vs : List Nat} {cs : List Char}

theorem outline?_eq_some_iff :
    outline? s = some us ↔ transduce Zone.step .code s.toList = some (us, .code) := by
  unfold outline?
  constructor
  · intro h
    split at h
    case h_1 vs hread =>
      cases h
      exact hread
    case h_2 => cases h
  · intro h
    rw [h]

theorem outline?_append (hs : outline? s = some us) (ht : outline? t = some vs) :
    outline? (s ++ t) = some (us ++ vs) := by
  rw [outline?_eq_some_iff] at hs ht ⊢
  rw [String.toList_append, transduce_append hs, ht]
  rfl

namespace SameOutline

theorem refl (h : (outline? s).isSome = true) : SameOutline s s := by
  obtain ⟨us, hus⟩ := Option.isSome_iff_exists.1 h
  exact ⟨us, hus, hus⟩

theorem append (hs : SameOutline s s') (ht : SameOutline t t') :
    SameOutline (s ++ t) (s' ++ t') := by
  obtain ⟨us, hus, hus'⟩ := hs
  obtain ⟨vs, hvs, hvs'⟩ := ht
  exact ⟨us ++ vs, outline?_append hus hvs, outline?_append hus' hvs'⟩

theorem empty : SameOutline "" "" :=
  ⟨[], rfl, rfl⟩

theorem join {texts texts' : List String} (h : List.Forall₂ SameOutline texts texts') :
    SameOutline (String.join texts) (String.join texts') := by
  induction h with
  | nil => exact empty
  | cons hs _ ih =>
      rw [String.join_cons, String.join_cons]
      exact hs.append ih

theorem intercalate {d : String} (hd : SameOutline d d) {texts texts' : List String}
    (h : List.Forall₂ SameOutline texts texts') :
    SameOutline (d.intercalate texts) (d.intercalate texts') := by
  induction h with
  | nil => exact empty
  | @cons s s' texts texts' hs hrest ih =>
      cases hrest with
      | nil =>
          rw [String.intercalate_singleton, String.intercalate_singleton]
          exact hs
      | cons ht hrest =>
          rw [String.intercalate_cons_cons, String.intercalate_cons_cons]
          exact (hs.append hd).append ih

end SameOutline

/-! ## Plain code -/

/-- Whether a character opens neither a literal nor a comment. -/
def isCode (c : Char) : Bool :=
  Zone.opened c = .code

/-- Whether a text has neither literals nor comments. -/
def IsCode (s : String) : Prop :=
  ∀ c ∈ s.toList, isCode c = true

instance (s : String) : Decidable (IsCode s) :=
  decidable_of_iff (s.toList.all isCode = true) List.all_eq_true

/-- A test that no mark passes, passes characters of code only. -/
theorem isCode_of_test {test : Char → Bool} (hmarks : Zone.marks.any test = false) {c : Char}
    (h : test c = true) : isCode c = true := by
  have hmark : ∀ d ∈ Zone.marks, c ≠ d := by
    rintro d hd rfl
    rw [List.any_eq_false.1 hmarks c hd |> Bool.eq_false_iff.2] at h
    cases h
  simp only [Zone.marks, List.forall_mem_cons, List.not_mem_nil, false_imp_iff, implies_true,
    and_true] at hmark
  simp [isCode, Zone.opened, hmark]

theorem isCode_of_isWord (h : isWord s = true) : IsCode s := by
  rw [isWord, Bool.and_eq_true, List.all_eq_true] at h
  exact fun c hc => isCode_of_test (by decide) (h.2 c hc)

/-- The text of a number is code, also that of one that is not finite. -/
theorem isCode_number (l : Layout) (x : Binary64) : IsCode (l.number x) := by
  rcases l.number_cases x with ⟨-, htext⟩ | ⟨hfinite, -⟩ | ⟨-, htext⟩
  · rw [IsCode, htext, ← List.all_eq_true]
    decide
  · exact isCode_of_isWord (isWord_number l hfinite)
  · rw [IsCode, htext, ← List.all_eq_true]
    split <;> decide

namespace Zone

theorem step_code_of_isCode {c : Char} (h : isCode c = true) :
    step code c = some ([c.toNat], code) := by
  rw [step, of_decide_eq_true h]

theorem transduce_isCode (h : ∀ c ∈ cs, isCode c = true) :
    transduce step code cs = some (cs.map Char.toNat, code) := by
  induction cs with
  | nil => rfl
  | cons c cs ih =>
      rw [List.forall_mem_cons] at h
      rw [transduce, step_code_of_isCode h.1, Option.bind_some, ih h.2]
      rfl

/-- An outline without marks is that of no other code. -/
theorem eq_of_transduce {ds : List Char} (hds : ∀ d ∈ ds, isCode d = true) {z : Zone}
    (h : transduce step code cs = some (ds.map Char.toNat, z)) : cs = ds := by
  induction cs generalizing ds with
  | nil =>
      cases ds with
      | nil => rfl
      | cons d ds => cases h
  | cons c cs ih =>
      rw [transduce, step, Option.bind_some] at h
      obtain ⟨r, hr, heq⟩ := Option.map_eq_some_iff.1 h
      cases ds with
      | nil => cases heq
      | cons d ds =>
          rw [List.forall_mem_cons] at hds
          obtain ⟨hlist, rfl⟩ := Prod.mk.inj heq
          obtain ⟨hfirst, hrest⟩ := List.cons.inj hlist
          obtain rfl : c = d := Char.toNat_inj.1 hfirst
          have hcode := step_code_of_isCode hds.1
          rw [step, Option.some.injEq, Prod.mk.injEq] at hcode
          dsimp only at hr
          rw [hcode.2] at hr
          rw [ih hds.2 (hr.trans (congrArg some (Prod.ext hrest rfl)))]

end Zone

theorem outline?_of_isCode (h : IsCode s) : outline? s = some (s.toList.map Char.toNat) :=
  outline?_eq_some_iff.2 (Zone.transduce_isCode h)

theorem SameOutline.of_isCode (h : IsCode s) : SameOutline s s :=
  ⟨_, outline?_of_isCode h, outline?_of_isCode h⟩

theorem IsCode.append (hs : IsCode s) (ht : IsCode t) : IsCode (s ++ t) := by
  intro c hc
  rw [String.toList_append, List.mem_append] at hc
  exact hc.elim (hs c) (ht c)

theorem SameOutline.behind (h : SameOutline t t') (hs : IsCode s) :
    SameOutline (s ++ t) (s ++ t') :=
  (of_isCode hs).append h

theorem SameOutline.before (h : SameOutline s s') (ht : IsCode t) :
    SameOutline (s ++ t) (s' ++ t) :=
  h.append (of_isCode ht)

/-- A code without literals and comments can be told by its outline. -/
theorem SameOutline.eq_iff (h : SameOutline s s') (ht : IsCode t) : s = t ↔ s' = t := by
  have hplain : ∀ {r r'}, SameOutline r r' → r = t → r' = t := by
    rintro r r' ⟨us, hus, hus'⟩ rfl
    rw [outline?_of_isCode ht, Option.some.injEq] at hus
    subst hus
    exact String.toList_injective (Zone.eq_of_transduce ht (outline?_eq_some_iff.1 hus'))
  obtain ⟨us, hus, hus'⟩ := h
  exact ⟨hplain ⟨us, hus, hus'⟩, hplain ⟨us, hus', hus⟩⟩

/-! ## Literals -/

/-- What is read of a literal up to its end leads the outline to its end. -/
theorem Zone.transduce_literal {σ : Type} [DecidableEq σ]
    {read : σ → Char → Option (List Nat × σ)} (inside : σ → Zone) {ended q : σ} {mark : Nat}
    (hstep : ∀ q c, (inside q).step c = (read q c).map (fun r =>
      if r.2 = ended then ([mark], code) else ([], inside r.2)))
    (hended : ∀ c, read ended c = none) (hq : q ≠ ended)
    (h : transduce read q cs = some (us, ended)) :
    transduce Zone.step (inside q) cs = some ([mark], code) := by
  induction cs generalizing q us with
  | nil => exact absurd (congrArg Prod.snd (Option.some.inj h)) hq
  | cons c cs ih =>
      obtain ⟨⟨vs, next⟩, hread, hmap⟩ := Option.bind_eq_some_iff.1 h
      obtain ⟨⟨ws, last⟩, hrest, heq⟩ := Option.map_eq_some_iff.1 hmap
      obtain rfl : last = ended := congrArg Prod.snd heq
      rw [transduce, hstep, hread, Option.map_some, Option.bind_some]
      by_cases hnext : next = last
      · -- nothing is read behind the end
        cases cs with
        | nil => simp [transduce, hnext]
        | cons d cs => simp [transduce, hnext, hended] at hrest
      · simp [hnext, ih hnext hrest]

/-- A string literal has the outline of its quotes. -/
theorem outline?_of_stringValue? (h : stringValue? s = some us) :
    ∃ quote, s.toList.head? = some quote ∧ outline? s = some [quote.toNat, quote.toNat] := by
  unfold stringValue? at h
  split at h
  case h_1 => cases h
  case h_2 quote cs hlist =>
    split at h
    case isFalse => cases h
    case isTrue hquote =>
      split at h
      case h_2 => cases h
      case h_1 hread =>
        have hopened : Zone.opened quote = .text quote .inside := if_pos (by simpa using hquote)
        have hbody := Zone.transduce_literal (Zone.text quote) (fun _ _ => rfl)
          (fun _ => rfl) (by decide) hread
        refine ⟨quote, by rw [hlist]; rfl, outline?_eq_some_iff.2 ?_⟩
        rw [hlist, transduce, Zone.step, hopened, Option.bind_some, hbody]
        rfl

/-- A template literal has the outline of its quotes. -/
theorem outline?_of_templateValue? (h : templateValue? s = some us) :
    outline? s = some [0x60, 0x60] := by
  unfold templateValue? at h
  split at h
  case h_1 => cases h
  case h_2 quote cs hlist =>
    split at h
    case isFalse => cases h
    case isTrue hquote =>
      split at h
      case h_2 => cases h
      case h_1 hread =>
        subst hquote
        have hbody := Zone.transduce_literal Zone.template (fun _ _ => rfl)
          (fun _ => rfl) (by decide) hread
        have hopened : Zone.opened '\x60' = .template .inside := by decide
        rw [outline?_eq_some_iff, hlist, transduce, Zone.step, hopened, Option.bind_some, hbody]
        rfl

/-- Literals with one mark differ inside only. -/
theorem SameOutline.of_stringValue? (h : stringValue? s = some us) (h' : stringValue? s' = some vs)
    (hquote : s.toList.head? = s'.toList.head?) : SameOutline s s' := by
  obtain ⟨quote, hhead, hs⟩ := outline?_of_stringValue? h
  obtain ⟨quote', hhead', hs'⟩ := outline?_of_stringValue? h'
  obtain rfl : quote = quote' := Option.some.inj (hhead.symm.trans (hquote.trans hhead'))
  exact ⟨_, hs, hs'⟩

theorem sameOutline_quoted (s t : String) : SameOutline (quoted s) (quoted t) :=
  .of_stringValue? (stringValue?_quoted s) (stringValue?_quoted t) (by simp [quoted])

theorem sameOutline_jsonQuoted (markup : Bool) (s t : String) :
    SameOutline (Json.quoted markup s) (Json.quoted markup t) :=
  .of_stringValue? (stringValue?_jsonQuoted markup s) (stringValue?_jsonQuoted markup t)
    (by simp [Json.quoted])

theorem sameOutline_template (s t : String) : SameOutline (template s) (template t) :=
  ⟨_, outline?_of_templateValue? (templateValue?_template s),
    outline?_of_templateValue? (templateValue?_template t)⟩

/-! ## Comments -/

namespace Zone

/-- A comment goes on through characters that keep it open. Behind a star the first of them must
not be a slash. -/
theorem exists_transduce_remark {q : Zone} (h : KeepsOpen cs)
    (hq : q = remark ∨ q = star ∧ cs.head? ≠ some '/') :
    ∃ q', (q' = remark ∨ q' = star) ∧ transduce step q cs = some ([], q') := by
  induction cs generalizing q with
  | nil => exact ⟨q, hq.imp_right And.left, rfl⟩
  | cons c cs ih =>
      obtain ⟨hhead, htail⟩ := List.isChain_cons.1 h
      have hstep : step q c = some ([], if c = '*' then star else remark) := by
        rcases hq with rfl | ⟨rfl, hslash⟩
        · rfl
        · have hc : c ≠ '/' := fun heq => hslash (by rw [heq]; rfl)
          rw [step, if_neg hc]
      rw [transduce_cons hstep]
      refine ih htail ?_
      split
      case isTrue heq => exact .inr ⟨rfl, fun hslash => hhead '/' hslash heq rfl⟩
      case isFalse => exact .inl rfl

/-- The end of a line leads away from a star. -/
theorem transduce_remark_line (h : KeepsOpen cs) :
    transduce step remark (cs ++ ['\n']) = some ([], remark) := by
  obtain ⟨q, hq, hread⟩ := exists_transduce_remark h (.inl rfl)
  rw [transduce_append hread]
  rcases hq with rfl | rfl <;> rfl

theorem transduce_commentLines {indent : String} (hindent : '*' ∉ indent.toList)
    (lines : List String) :
    transduce step remark (String.join (lines.map (commentLine indent))).toList =
      some ([], remark) := by
  induction lines with
  | nil => rfl
  | cons line lines ih =>
      obtain ⟨cs, hline, hcs⟩ := exists_commentLine hindent line
      rw [List.map_cons, String.join_cons, String.toList_append, hline,
        transduce_append (transduce_remark_line hcs), ih]
      rfl

/-- Blanks pass by inside of a comment. -/
theorem transduce_remark_blanks (h : ∀ c ∈ cs, c = ' ') :
    transduce step remark cs = some ([], remark) := by
  induction cs with
  | nil => rfl
  | cons c cs ih =>
      rw [List.forall_mem_cons] at h
      have hstep : step remark c = some ([], remark) := by rw [h.1]; rfl
      rw [transduce_cons hstep, ih h.2]

end Zone

variable {indent : String}

theorem isCode_of_blank (hindent : ∀ c ∈ indent.toList, c = ' ') : IsCode indent := by
  intro c hc
  rw [hindent c hc]
  decide

/-- Of a comment the outline has the indentation, the marks and the end of the line, whatever the
lines are. -/
theorem outline?_comment (hindent : ∀ c ∈ indent.toList, c = ' ') (lines : List String) :
    outline? (comment indent lines) =
      some (indent.toList.map Char.toNat ++ [0x2F, 0x2F, 0x0A]) := by
  have hstar : '*' ∉ indent.toList := fun h => absurd (hindent _ h) (by decide)
  have hstart : transduce Zone.step .code "/**\n".toList = some ([0x2F], .remark) := by decide
  have hend : transduce Zone.step .remark " */\n".toList = some ([0x2F, 0x0A], .code) := by decide
  rw [outline?_eq_some_iff]
  simp only [comment, String.toList_append]
  rw [List.append_assoc, List.append_assoc, List.append_assoc,
    transduce_append (Zone.transduce_isCode (isCode_of_blank hindent)), transduce_append hstart,
    transduce_append (Zone.transduce_commentLines hstar lines),
    transduce_append (Zone.transduce_remark_blanks hindent), hend]
  rfl

theorem sameOutline_comment (hindent : ∀ c ∈ indent.toList, c = ' ') (lines lines' : List String) :
    SameOutline (comment indent lines) (comment indent lines') :=
  ⟨_, outline?_comment hindent lines, outline?_comment hindent lines'⟩

theorem sameOutline_documentation (hindent : ∀ c ∈ indent.toList, c = ' ') (description : String)
    (deprecated : Bool) :
    SameOutline (documentation indent description deprecated)
      (documentation indent description deprecated) := by
  have hall : ∀ lines : List String, SameOutline
      (if lines.isEmpty then "" else comment indent lines)
      (if lines.isEmpty then "" else comment indent lines) := by
    intro lines
    split
    · exact .empty
    · exact sameOutline_comment hindent lines lines
  exact hall _

end TypedClient.TypeScript
