import TypedClient.Model.Shape
import TypedClient.Proofs.Document.Display
import TypedClient.Proofs.Model.Nodes
import TypedClient.Proofs.Text.Parts

/-!
# What a shape says

Models of one structure have one shape. The converse needs care: names, targets and values stand
in a shape as they are, so one that holds what the shape writes between its parts can make two
structures look alike, as `lookalikes_of_marks` shows. `shape_eq_iff` shows that nothing else can:
clear models, in which no name, target or value holds such a mark, have one shape only if they have
one structure.
-/

namespace TypedClient.Model

mutual

/-- Whether two models have the same structure: all that a shape is meant to tell apart. -/
def SameStructure : Model → Model → Prop
  | absent, absent => True
  | node t ps i ms, node u qs j ns =>
      t.kind = u.kind ∧ t.nullable = u.nullable ∧
        match t.kind with
        | .reference => t.target = u.target
        | .generic => t.type = u.type ∧ t.format = u.format
        | .enum =>
            t.type = u.type ∧
              t.enum.map (fun e => (e.value, e.name)) = u.enum.map (fun e => (e.value, e.name))
        | .interface => SameProperties ps qs
        | .array => i.SameStructure j
        | .dictionary => i.SameStructure j
        | _ => SameMembers ms ns
  | _, _ => False

/-- Whether two lists of properties have the same names, flags and structures. -/
def SameProperties : List (Property Model) → List (Property Model) → Prop
  | [], [] => True
  | ⟨name, _, required, m⟩ :: ps, q :: qs =>
      (name = q.name ∧ required = q.required ∧ m.SameStructure q.model) ∧ SameProperties ps qs
  | _, _ => False

/-- Whether two lists of members have the same structures. -/
def SameMembers : List Model → List Model → Prop
  | [], [] => True
  | m :: ms, n :: ns => m.SameStructure n ∧ SameMembers ms ns
  | _, _ => False

end

/-- The marks around the types of enum values, behind their first character. -/
def typeMarks : List (List Char) :=
  ["<nil>:", "bool:", "int:", "int64:", "uint64:", "float64:", "string:"].map String.toList

/-- What shapes start with. -/
def heads : List (List Char) :=
  "nil;".toList :: Kind.known.map (fun k => (k.label ++ "(").toList)

/-- Whether a text can stand inside a shape: it does not close it. -/
def Plain (text : String) : Prop :=
  Text.FreeOf ')' [[';']] text.toList ∧ ¬ "|null".toList <:+ text.toList

/-- Whether a member of an enum can be told from its shape. -/
def ClearMember (e : EnumMember) : Prop :=
  e.value.IsScalar ∧ '=' ∉ e.name.toList ∧
    Text.FreeOf ',' typeMarks (e.value.display ++ "=" ++ e.name).toList

/-- Whether the name of a property can be told from the shape of the interface. -/
def ClearName (name : String) : Prop :=
  Text.FreeOf ':' heads name.toList ∧ ¬ "!".toList <:+ name.toList ∧
    ¬ ");".toList <+: name.toList ∧ ¬ "|null);".toList <+: name.toList

instance (x : Char) (tails : List (List Char)) (u : List Char) :
    Decidable (Text.FreeOf x tails u) :=
  inferInstanceAs (Decidable (∀ tail ∈ tails, ¬ (x :: tail) <:+: u))

instance (text : String) : Decidable (Plain text) :=
  inferInstanceAs (Decidable (_ ∧ _))

instance (e : EnumMember) : Decidable (ClearMember e) :=
  inferInstanceAs (Decidable (_ ∧ _))

instance (name : String) : Decidable (ClearName name) :=
  inferInstanceAs (Decidable (_ ∧ _))

mutual

/-- Whether no name, target or value of a model holds a mark that makes its shape ambiguous, and
every sort in it is a known one. -/
def isClear : Model → Bool
  | absent => true
  | node t ps i ms =>
      match t.kind with
      | .reference => Plain t.target
      | .generic => ',' ∉ t.type.toList ∧ Plain (t.type ++ "," ++ t.format)
      | .enum =>
          Text.FreeOf ',' typeMarks t.type.toList ∧ (∀ e ∈ t.enum, ClearMember e) ∧
            Plain (t.type ++ String.join (t.enum.map memberShape))
      | .interface => areClearProperties ps
      | .array => i.isClear
      | .dictionary => i.isClear
      | .other _ => false
      | _ => areClearMembers ms

/-- Whether the names and the models of properties are clear. -/
def areClearProperties : List (Property Model) → Bool
  | [] => true
  | ⟨name, _, _, m⟩ :: rest => decide (ClearName name) && m.isClear && areClearProperties rest

/-- Whether the members of a list are clear. -/
def areClearMembers : List Model → Bool
  | [] => true
  | m :: rest => m.isClear && areClearMembers rest

end

/-- What the shape of a node says about null. -/
def nullText (nullable : Bool) : List Char :=
  if nullable then "|null".toList else []

/-- The end of the shape of a node. -/
def closing (nullable : Bool) : List Char :=
  nullText nullable ++ [')', ';']

/-- What stands between the parentheses of the shape of a node. -/
def inside (t : Traits) (ps : List (Property Model)) (i : Model) (ms : List Model) : String :=
  match t.kind with
  | .reference => t.target
  | .generic => t.type ++ "," ++ t.format
  | .enum => t.type ++ String.join (t.enum.map memberShape)
  | .interface => shapeOfProperties ps
  | .array => i.shape
  | .dictionary => i.shape
  | _ => shapeOfMembers ms

/-- The shape of a node is its word, what stands inside, and the end. -/
theorem toList_shape_node (t : Traits) (ps : List (Property Model)) (i : Model) (ms : List Model) :
    (node t ps i ms).shape.toList =
      t.kind.label.toList ++ '(' :: ((inside t ps i ms).toList ++ closing t.nullable) := by
  have hshape : (node t ps i ms).shape = t.kind.label ++ "(" ++ inside t ps i ms ++
      (if t.nullable then "|null" else "") ++ ");" := rfl
  have hparen : "(".toList = ['('] := by decide
  have hend : ");".toList = [')', ';'] := by decide
  rw [hshape, closing, nullText]
  simp only [String.toList_append, hparen, hend, List.append_assoc, List.singleton_append]
  split <;> rfl

/-- Ends are told apart, whatever follows. -/
theorem closing_append_inj {a b : Bool} {r s : List Char} (h : closing a ++ r = closing b ++ s) :
    a = b ∧ r = s := by
  cases a <;> cases b
  · exact ⟨rfl, List.append_cancel_left h⟩
  · exact absurd (List.cons.inj h).1 (by decide)
  · exact absurd (List.cons.inj h).1 (by decide)
  · exact ⟨rfl, List.append_cancel_left h⟩

/-- A plain text and the end behind it are told apart. -/
theorem Plain.append_closing_inj {p q : String} (hp : Plain p) (hq : Plain q) {a b : Bool}
    {r s : List Char} (h : p.toList ++ (closing a ++ r) = q.toList ++ (closing b ++ s)) :
    p = q ∧ a = b ∧ r = s := by
  have hfree : ∀ {text : String}, Plain text → ∀ nullable : Bool,
      Text.FreeOf ')' [[';']] (text.toList ++ nullText nullable) :=
    fun htext nullable => htext.1.append (by cases nullable <;> simp [nullText])
  obtain ⟨htexts, hrest⟩ := Text.cut_eq (r := r) (s := s) (by decide) (hfree hp a)
    (hfree hq b) List.mem_cons_self List.mem_cons_self (by simpa [closing] using h)
  obtain ⟨hpq, hab⟩ := Text.cut_flag hp.2 hq.2 htexts
  exact ⟨String.toList_injective hpq, hab, (List.cons.inj hrest).2⟩

/-- The words of the known kinds are told apart by the parenthesis behind them. -/
theorem label_append_inj {k l : Kind} (hk : k ∈ Kind.known) (hl : l ∈ Kind.known)
    {r s : List Char} (h : k.label.toList ++ '(' :: r = l.label.toList ++ '(' :: s) :
    k = l ∧ r = s := by
  have hparen : ∀ k ∈ Kind.known, '(' ∉ k.label.toList := by decide
  have hlabel : ∀ k ∈ Kind.known, ∀ l ∈ Kind.known, k.label.toList = l.label.toList → k = l := by
    decide
  obtain ⟨hsame, hrest⟩ := Text.cut_first (hparen k hk) (hparen l hl) h
  exact ⟨hlabel k hk l hl hsame, hrest⟩

/-- The kind of a clear model is known. -/
theorem kind_mem_known {t : Traits} {ps : List (Property Model)} {i : Model} {ms : List Model}
    (h : (node t ps i ms).isClear = true) : t.kind ∈ Kind.known := by
  cases hkind : t.kind with
  | other label => simp [isClear, hkind] at h
  | _ => decide

/-- The shape of a clear model starts with a head. -/
theorem exists_head {m : Model} (h : m.isClear = true) :
    ∃ head ∈ heads, ∃ rest, m.shape.toList = head ++ rest := by
  cases m with
  | absent => exact ⟨_, List.mem_cons_self, [], by decide⟩
  | node t ps i ms =>
      refine ⟨(t.kind.label ++ "(").toList,
        List.mem_cons_of_mem _ (List.mem_map_of_mem (kind_mem_known h)),
        (inside t ps i ms).toList ++ closing t.nullable, ?_⟩
      rw [toList_shape_node, String.toList_append, List.append_assoc]
      rfl

/-- No shape starts like the end of a node. -/
theorem shape_append_ne_closing {m : Model} (h : m.isClear = true) (r : List Char) (a : Bool)
    (s : List Char) : m.shape.toList ++ r ≠ closing a ++ s := by
  have hfirst : ∀ head ∈ heads, head.head? ∉ [some ')', some '|', none] := by decide
  obtain ⟨head, hhead, rest, hshape⟩ := exists_head h
  intro heq
  have hc := hfirst head hhead
  cases head with
  | nil => exact absurd hc (by decide)
  | cons c head =>
      rw [hshape] at heq
      cases a with
      | false => exact hc (by rw [List.head?_cons, (List.cons.inj heq).1]; decide)
      | true => exact hc (by rw [List.head?_cons, (List.cons.inj heq).1]; decide)

/-- What the shape of an interface says about a property before its colon. -/
def propertyText (name : String) (required : Bool) : List Char :=
  name.toList ++ if required then "!".toList else []

/-- Names and flags of properties are told apart by the shape behind their colon. -/
theorem propertyText_inj {name next : String} (hname : ClearName name) (hnext : ClearName next)
    {required flag : Bool} {m n : Model} (hm : m.isClear = true) (hn : n.isClear = true)
    {r s : List Char}
    (h : propertyText name required ++ ':' :: (m.shape.toList ++ r) =
      propertyText next flag ++ ':' :: (n.shape.toList ++ s)) :
    name = next ∧ required = flag ∧ m.shape.toList ++ r = n.shape.toList ++ s := by
  have hcolon : ∀ head ∈ heads, ':' ∉ head := by decide
  have hfree : ∀ {name : String}, ClearName name → ∀ required : Bool,
      Text.FreeOf ':' heads (propertyText name required) :=
    fun hclear required => hclear.1.append (by
      cases required <;> simp [heads, Kind.known, Kind.label])
  obtain ⟨head, hhead, rest, hshape⟩ := exists_head hm
  obtain ⟨head', hhead', rest', hshape'⟩ := exists_head hn
  rw [hshape, hshape', List.append_assoc, List.append_assoc] at h ⊢
  obtain ⟨htext, hrest⟩ := Text.cut_eq hcolon (hfree hname required) (hfree hnext flag) hhead
    hhead' h
  obtain ⟨hsame, hflag⟩ := Text.cut_flag hname.2.1 hnext.2.1 htext
  exact ⟨String.toList_injective hsame, hflag, hrest⟩

/-- No property starts like the end of a node. -/
theorem propertyText_append_ne_closing {name : String} (hname : ClearName name) (required : Bool)
    (r : List Char) (a : Bool) (s : List Char) :
    propertyText name required ++ ':' :: r ≠ closing a ++ s := by
  intro h
  have hbang : '!' ∉ closing a := by cases a <;> decide
  have hcolon : ':' ∉ closing a := by cases a <;> decide
  have hstart : closing a <+: name.toList := by
    cases required with
    | false => exact Text.prefix_of_append_eq hcolon (by simpa [propertyText] using h)
    | true => exact Text.prefix_of_append_eq hbang (by simpa [propertyText] using h)
  cases a with
  | false => exact hname.2.2.1 hstart
  | true => exact hname.2.2.2 hstart

/-- The shape of a list of properties starts with that of the first. -/
theorem toList_shapeOfProperties_cons (p : Property Model) (ps : List (Property Model)) :
    (shapeOfProperties (p :: ps)).toList =
      propertyText p.name p.required ++
        ':' :: (p.model.shape.toList ++ (shapeOfProperties ps).toList) := by
  have hcolon : ":".toList = [':'] := by decide
  rw [shapeOfProperties, propertyText]
  simp only [String.toList_append, hcolon, List.append_assoc, List.singleton_append]
  split <;> rfl

/-- Whether a shape with anything behind it gives the structure of a clear model. -/
def Determined (a : Model) : Prop :=
  ∀ b r s, a.isClear = true → b.isClear = true →
    a.shape.toList ++ r = b.shape.toList ++ s → a.SameStructure b ∧ r = s

/-- The shape of a list of properties gives their structure. -/
theorem properties_determined {ps qs : List (Property Model)}
    (hps : ∀ p ∈ ps, p.model.Determined) (hp : areClearProperties ps = true)
    (hq : areClearProperties qs = true) {a b : Bool} {r s : List Char}
    (h : (shapeOfProperties ps).toList ++ (closing a ++ r) =
      (shapeOfProperties qs).toList ++ (closing b ++ s)) :
    SameProperties ps qs ∧ a = b ∧ r = s := by
  induction ps generalizing qs with
  | nil =>
      cases qs with
      | nil => exact ⟨trivial, closing_append_inj h⟩
      | cons q qs =>
          rw [toList_shapeOfProperties_cons, List.append_assoc] at h
          simp only [areClearProperties, Bool.and_eq_true, decide_eq_true_eq] at hq
          exact absurd h.symm (propertyText_append_ne_closing hq.1.1 _ _ _ _)
  | cons p ps ih =>
      simp only [areClearProperties, Bool.and_eq_true, decide_eq_true_eq] at hp
      cases qs with
      | nil =>
          rw [toList_shapeOfProperties_cons, List.append_assoc] at h
          exact absurd h (propertyText_append_ne_closing hp.1.1 _ _ _ _)
      | cons q qs =>
          simp only [areClearProperties, Bool.and_eq_true, decide_eq_true_eq] at hq
          rw [toList_shapeOfProperties_cons, toList_shapeOfProperties_cons] at h
          simp only [List.append_assoc, List.cons_append] at h
          obtain ⟨hname, hrequired, hrest⟩ :=
            propertyText_inj hp.1.1 hq.1.1 hp.1.2 hq.1.2 h
          obtain ⟨hmodel, hrest⟩ :=
            hps p List.mem_cons_self q.model _ _ hp.1.2 hq.1.2 hrest
          obtain ⟨hsame, hend⟩ :=
            ih (fun p hmem => hps p (List.mem_cons_of_mem _ hmem)) hp.2 hq.2 hrest
          exact ⟨⟨⟨hname, hrequired, hmodel⟩, hsame⟩, hend⟩

/-- The shape of a list of members gives their structure. -/
theorem members_determined {ms ns : List Model} (hms : ∀ m ∈ ms, m.Determined)
    (hm : areClearMembers ms = true) (hn : areClearMembers ns = true) {a b : Bool}
    {r s : List Char}
    (h : (shapeOfMembers ms).toList ++ (closing a ++ r) =
      (shapeOfMembers ns).toList ++ (closing b ++ s)) :
    SameMembers ms ns ∧ a = b ∧ r = s := by
  induction ms generalizing ns with
  | nil =>
      cases ns with
      | nil => exact ⟨trivial, closing_append_inj h⟩
      | cons n ns =>
          rw [shapeOfMembers, shapeOfMembers, String.toList_append, List.append_assoc] at h
          simp only [areClearMembers, Bool.and_eq_true] at hn
          exact absurd h.symm (shape_append_ne_closing hn.1 _ _ _)
  | cons m ms ih =>
      simp only [areClearMembers, Bool.and_eq_true] at hm
      cases ns with
      | nil =>
          rw [shapeOfMembers, shapeOfMembers, String.toList_append, List.append_assoc] at h
          exact absurd h (shape_append_ne_closing hm.1 _ _ _)
      | cons n ns =>
          simp only [areClearMembers, Bool.and_eq_true] at hn
          rw [shapeOfMembers, shapeOfMembers, String.toList_append, String.toList_append,
            List.append_assoc, List.append_assoc] at h
          obtain ⟨hmodel, hrest⟩ := hms m List.mem_cons_self n _ _ hm.1 hn.1 h
          obtain ⟨hsame, hend⟩ :=
            ih (fun m hmem => hms m (List.mem_cons_of_mem _ hmem)) hm.2 hn.2 hrest
          exact ⟨⟨hmodel, hsame⟩, hend⟩

/-- What the shape of a member says about the type of its value, behind the first character. -/
def typeMark (v : Value) : List Char :=
  (v.typeName ++ ":").toList

/-- What the shape of a member says behind the type of its value. -/
def memberText (e : EnumMember) : List Char :=
  (e.value.display ++ "=" ++ e.name).toList

/-- The shapes of members start with the mark of the first. -/
theorem toList_join_memberShape_cons (e : EnumMember) (es : List EnumMember) :
    (String.join ((e :: es).map memberShape)).toList =
      ',' :: (typeMark e.value ++
        (memberText e ++ (String.join (es.map memberShape)).toList)) := by
  have hcomma : ",".toList = [','] := by decide
  rw [List.map_cons, String.join_cons, memberShape, typeMark, memberText]
  simp only [String.toList_append, hcomma, List.append_assoc, List.cons_append, List.nil_append]

/-- The type of a scalar makes a mark with one colon. -/
theorem typeMark_of_isScalar {v : Value} (h : v.IsScalar) :
    typeMark v ∈ typeMarks ∧ ':' ∉ v.typeName.toList := by
  cases v with
  | list items => exact absurd h id
  | mapping entries => exact absurd h id
  | _ => simp only [typeMark, Value.typeName]; decide

/-- The marks of types are told apart, whatever follows. -/
theorem typeMark_append_inj {v w : Value} (hv : v.IsScalar) (hw : w.IsScalar) {r s : List Char}
    (h : typeMark v ++ r = typeMark w ++ s) : v.typeName = w.typeName ∧ r = s := by
  have hcolon : ":".toList = [':'] := by decide
  simp only [typeMark, String.toList_append, hcolon, List.append_assoc, List.singleton_append] at h
  obtain ⟨htype, hrest⟩ :=
    Text.cut_first (typeMark_of_isScalar hv).2 (typeMark_of_isScalar hw).2 h
  exact ⟨String.toList_injective htype, hrest⟩

/-- Members of one type are told by their texts. -/
theorem member_eq_of_text {e f : EnumMember} (he : ClearMember e) (hf : ClearMember f)
    (htype : e.value.typeName = f.value.typeName) (h : memberText e = memberText f) :
    (e.value, e.name) = (f.value, f.name) := by
  have hequals : "=".toList = ['='] := by decide
  simp only [memberText, String.toList_append, hequals, List.append_assoc,
    List.singleton_append] at h
  obtain ⟨hdisplay, hname⟩ := Text.cut_last he.2.1 hf.2.1 h
  rw [Value.eq_of_display_eq he.1 hf.1 htype (String.toList_injective hdisplay),
    String.toList_injective hname]

/-- The shape of an enum gives its type and its members. -/
theorem enum_determined {u v : List Char} {es fs : List EnumMember}
    (hu : Text.FreeOf ',' typeMarks u) (hv : Text.FreeOf ',' typeMarks v)
    (hes : ∀ e ∈ es, ClearMember e) (hfs : ∀ f ∈ fs, ClearMember f)
    (h : u ++ (String.join (es.map memberShape)).toList =
      v ++ (String.join (fs.map memberShape)).toList) :
    u = v ∧ es.map (fun e => (e.value, e.name)) = fs.map (fun e => (e.value, e.name)) := by
  have hcomma : ∀ tail ∈ typeMarks, ',' ∉ tail := by decide
  induction es generalizing u v fs with
  | nil =>
      cases fs with
      | nil => exact ⟨List.append_cancel_right h, rfl⟩
      | cons f fs =>
          rw [toList_join_memberShape_cons] at h
          have hmark := (typeMark_of_isScalar (hfs f List.mem_cons_self).1).1
          exact absurd ((List.append_nil u).symm.trans h) (hu.ne_append hmark)
  | cons e es ih =>
      have he := hes e List.mem_cons_self
      have hmark := (typeMark_of_isScalar he.1).1
      cases fs with
      | nil =>
          rw [toList_join_memberShape_cons] at h
          exact absurd ((List.append_nil v).symm.trans h.symm) (hv.ne_append hmark)
      | cons f fs =>
          have hf := hfs f List.mem_cons_self
          rw [toList_join_memberShape_cons, toList_join_memberShape_cons] at h
          -- the texts of the first members take the place of the types in the next step
          obtain ⟨huv, hrest⟩ :=
            Text.cut_eq hcomma hu hv hmark (typeMark_of_isScalar hf.1).1 h
          obtain ⟨htype, hrest⟩ := typeMark_append_inj he.1 hf.1 hrest
          obtain ⟨htext, hmembers⟩ := ih he.2.2 hf.2.2
            (fun e hmem => hes e (List.mem_cons_of_mem _ hmem))
            (fun f hmem => hfs f (List.mem_cons_of_mem _ hmem)) hrest
          exact ⟨huv, by rw [List.map_cons, List.map_cons, hmembers,
            member_eq_of_text he hf htype htext]⟩

/-- The shape of a primitive type gives the type and its format. -/
theorem generic_determined {type next format refinement : String} (htype : ',' ∉ type.toList)
    (hnext : ',' ∉ next.toList) (h : type ++ "," ++ format = next ++ "," ++ refinement) :
    type = next ∧ format = refinement := by
  have hcomma : ",".toList = [','] := by decide
  have hlists := congrArg String.toList h
  simp only [String.toList_append, hcomma, List.append_assoc, List.singleton_append] at hlists
  obtain ⟨hfirst, hrest⟩ := Text.cut_first htype hnext hlists
  exact ⟨String.toList_injective hfirst, String.toList_injective hrest⟩

/-- No model looks like the absence of one. -/
theorem shape_node_append_ne {t : Traits} {ps : List (Property Model)} {i : Model}
    {ms : List Model} (h : (node t ps i ms).isClear = true) (r s : List Char) :
    (node t ps i ms).shape.toList ++ r ≠ absent.shape.toList ++ s := by
  have hlabels : ∀ k ∈ Kind.known, ¬ "nil;".toList <+: k.label.toList := by decide
  rw [toList_shape_node, List.append_assoc]
  intro heq
  exact hlabels t.kind (kind_mem_known h) (Text.prefix_of_append_eq (by decide) heq)

/-- The shape of every clear model gives its structure. -/
theorem determined (a : Model) : a.Determined := by
  induction a using induction_on_parts with
  | absent =>
      intro b r s _ hb h
      cases b with
      | absent => exact ⟨trivial, List.append_cancel_left h⟩
      | node t ps i ms => exact absurd h.symm (shape_node_append_ne hb s r)
  | node t ps i ms hps hi hms =>
      intro b r s ha hb h
      cases b with
      | absent => exact absurd h (shape_node_append_ne ha r s)
      | node u qs j ns =>
          rw [toList_shape_node, toList_shape_node, List.append_assoc, List.append_assoc,
            List.cons_append, List.cons_append, List.append_assoc, List.append_assoc] at h
          obtain ⟨hkinds, h⟩ := label_append_inj (kind_mem_known ha) (kind_mem_known hb) h
          -- the kinds agree, and what stands inside is read the way that the kind says
          simp only [SameStructure, ← hkinds, true_and]
          cases hkind : t.kind with
          | reference =>
              simp only [isClear, inside, ← hkinds, hkind, decide_eq_true_eq] at ha hb h
              obtain ⟨htarget, hnull, hrest⟩ := ha.append_closing_inj hb h
              exact ⟨⟨hnull, htarget⟩, hrest⟩
          | generic =>
              simp only [isClear, inside, ← hkinds, hkind, decide_eq_true_eq] at ha hb h
              obtain ⟨htext, hnull, hrest⟩ := ha.2.append_closing_inj hb.2 h
              exact ⟨⟨hnull, generic_determined ha.1 hb.1 htext⟩, hrest⟩
          | enum =>
              simp only [isClear, inside, ← hkinds, hkind, decide_eq_true_eq] at ha hb h
              obtain ⟨htext, hnull, hrest⟩ := ha.2.2.append_closing_inj hb.2.2 h
              have hlists := congrArg String.toList htext
              rw [String.toList_append, String.toList_append] at hlists
              obtain ⟨htype, hmembers⟩ := enum_determined ha.1 hb.1 ha.2.1 hb.2.1 hlists
              exact ⟨⟨hnull, String.toList_injective htype, hmembers⟩, hrest⟩
          | interface =>
              simp only [isClear, inside, ← hkinds, hkind] at ha hb h
              obtain ⟨hsame, hnull, hrest⟩ := properties_determined hps ha hb h
              exact ⟨⟨hnull, hsame⟩, hrest⟩
          | array | dictionary =>
              simp only [isClear, inside, ← hkinds, hkind] at ha hb h
              obtain ⟨hsame, hclosing⟩ := hi j _ _ ha hb h
              obtain ⟨hnull, hrest⟩ := closing_append_inj hclosing
              exact ⟨⟨hnull, hsame⟩, hrest⟩
          | allOf | oneOf | anyOf =>
              simp only [isClear, inside, ← hkinds, hkind] at ha hb h
              obtain ⟨hsame, hnull, hrest⟩ := members_determined hms ha hb h
              exact ⟨⟨hnull, hsame⟩, hrest⟩
          | other label => simp [isClear, hkind] at ha

/-- Properties of one structure have one shape. -/
theorem SameProperties.shape_eq {ps qs : List (Property Model)}
    (hps : ∀ p ∈ ps, ∀ b, p.model.SameStructure b → p.model.shape = b.shape)
    (h : SameProperties ps qs) : shapeOfProperties ps = shapeOfProperties qs := by
  induction ps generalizing qs with
  | nil =>
      cases qs with
      | nil => rfl
      | cons q qs => exact absurd h id
  | cons p ps ih =>
      cases qs with
      | nil => exact absurd h id
      | cons q qs =>
          obtain ⟨⟨hname, hrequired, hmodel⟩, hrest⟩ := h
          rw [shapeOfProperties, shapeOfProperties, hname, hrequired,
            hps p List.mem_cons_self _ hmodel,
            ih (fun p hmem => hps p (List.mem_cons_of_mem _ hmem)) hrest]

/-- Members of one structure have one shape. -/
theorem SameMembers.shape_eq {ms ns : List Model}
    (hms : ∀ m ∈ ms, ∀ b, m.SameStructure b → m.shape = b.shape) (h : SameMembers ms ns) :
    shapeOfMembers ms = shapeOfMembers ns := by
  induction ms generalizing ns with
  | nil =>
      cases ns with
      | nil => rfl
      | cons n ns => exact absurd h id
  | cons m ms ih =>
      cases ns with
      | nil => exact absurd h id
      | cons n ns =>
          obtain ⟨hmodel, hrest⟩ := h
          rw [shapeOfMembers, shapeOfMembers, hms m List.mem_cons_self _ hmodel,
            ih (fun m hmem => hms m (List.mem_cons_of_mem _ hmem)) hrest]

/-- The shapes of members are those of their values and names. -/
theorem map_memberShape (es : List EnumMember) :
    es.map memberShape =
      (es.map (fun e => (e.value, e.name))).map (fun e =>
        memberShape { value := e.1, name := e.2 }) := by
  rw [List.map_map]
  rfl

/-- Models of one structure have one shape. -/
theorem SameStructure.shape_eq {a b : Model} (h : a.SameStructure b) : a.shape = b.shape := by
  induction a using induction_on_parts generalizing b with
  | absent =>
      cases b with
      | absent => rfl
      | node t ps i ms => exact absurd h id
  | node t ps i ms hps hi hms =>
      cases b with
      | absent => exact absurd h id
      | node u qs j ns =>
          obtain ⟨hkinds, hnull, hparts⟩ := h
          have hinside : inside t ps i ms = inside u qs j ns := by
            cases hkind : t.kind with
            | reference =>
                simp only [inside, ← hkinds, hkind] at hparts ⊢
                exact hparts
            | generic =>
                simp only [inside, ← hkinds, hkind] at hparts ⊢
                rw [hparts.1, hparts.2]
            | enum =>
                simp only [inside, ← hkinds, hkind] at hparts ⊢
                rw [map_memberShape, map_memberShape u.enum, hparts.1, hparts.2]
            | interface =>
                simp only [inside, ← hkinds, hkind] at hparts ⊢
                exact hparts.shape_eq (fun p hp b hb => hps p hp hb)
            | array | dictionary =>
                simp only [inside, ← hkinds, hkind] at hparts ⊢
                exact hi hparts
            | allOf | oneOf | anyOf | other =>
                simp only [inside, ← hkinds, hkind] at hparts ⊢
                exact hparts.shape_eq (fun m hm b hb => hms m hm hb)
          refine String.toList_injective ?_
          rw [toList_shape_node, toList_shape_node, hkinds, hnull, hinside]

/-- Clear models have one shape exactly when they have one structure. -/
theorem shape_eq_iff {a b : Model} (ha : a.isClear = true) (hb : b.isClear = true) :
    a.shape = b.shape ↔ a.SameStructure b :=
  ⟨fun h => (a.determined b [] [] ha hb (by rw [h])).1, SameStructure.shape_eq⟩

/-- An interface with some properties. -/
def interfaceOf (ps : List (Property Model)) : Model :=
  .node { kind := .interface } ps .absent []

/-- An enum with some members. -/
def enumOf (es : List EnumMember) : Model :=
  leaf { kind := .enum, enum := es }

/-- What all of some models describe. -/
def allOfModels (ms : List Model) : Model :=
  .node { kind := .allOf } [] .absent ms

/-- Whether two models of different structure have one shape. -/
def Lookalikes (a b : Model) : Prop :=
  a.shape = b.shape ∧ ¬ a.SameStructure b

/-- A text with something behind it is another text. -/
theorem append_ne_self {text more : String} (h : more.toList ≠ []) : text ++ more ≠ text := by
  intro heq
  have hlists := congrArg String.toList heq
  rw [String.toList_append] at hlists
  exact h (List.append_cancel_left (hlists.trans (List.append_nil _).symm))

/-- The marks that clear models leave out do make lookalikes, whatever texts stand around them: a
flag at the end of a name or a target, a separator inside a type or the name of a member, a further
property or member inside a name, the end of a node inside a target or in front of a name, and a
blank inside an item. -/
theorem lookalikes_of_marks :
    (∀ name m, Lookalikes (interfaceOf [{ name := name ++ "!", model := m }])
      (interfaceOf [{ name, required := true, model := m }])) ∧
    (∀ target, Lookalikes (leaf { kind := .reference, target := target ++ "|null" })
      (leaf { kind := .reference, target, nullable := true })) ∧
    (∀ type word format,
      Lookalikes (leaf { kind := .generic, type := type ++ "," ++ word, format })
        (leaf { kind := .generic, type, format := word ++ "," ++ format })) ∧
    (∀ value word name, Lookalikes (enumOf [{ value := .text (value ++ "=" ++ word), name }])
      (enumOf [{ value := .text value, name := word ++ "=" ++ name }])) ∧
    (∀ value word next name,
      Lookalikes (enumOf [{ value, name := word ++ ",string:" ++ next ++ "=" ++ name }])
        (enumOf [{ value, name := word }, { value := .text next, name }])) ∧
    (∀ name next m n,
      Lookalikes (interfaceOf [{ name := name ++ ":" ++ m.shape ++ next, model := n }])
        (interfaceOf [{ name, model := m }, { name := next, model := n }])) ∧
    (∀ target next pointer,
      Lookalikes (allOfModels [referenceTo (target ++ ");reference(" ++ next) pointer])
        (allOfModels [referenceTo target pointer, referenceTo next pointer])) ∧
    (∀ name m,
      Lookalikes (allOfModels [interfaceOf [{ name := ");interface(" ++ name, model := m }]])
        (allOfModels [interfaceOf [], interfaceOf [{ name, model := m }]])) ∧
    ∀ item next name,
      Lookalikes (enumOf [{ value := .list [.text (item ++ " " ++ next)], name }])
        (enumOf [{ value := .list [.text item, .text next], name }]) := by
  refine ⟨fun name m => ⟨?_, ?_⟩, fun target => ⟨?_, ?_⟩, fun type word format => ⟨?_, ?_⟩,
    fun value word name => ⟨?_, ?_⟩, fun value word next name => ⟨?_, ?_⟩,
    fun name next m n => ⟨?_, ?_⟩, fun target next pointer => ⟨?_, ?_⟩, fun name m => ⟨?_, ?_⟩,
    fun item next name => ⟨?_, ?_⟩⟩
  · simp [shape, interfaceOf, shapeOfProperties, String.append_assoc]
  · exact fun h => append_ne_self (by decide) h.2.2.1.1
  · simp [shape, leaf, String.append_assoc]
  · exact fun h => Bool.false_ne_true h.2.1
  · simp [shape, leaf, String.append_assoc]
  · exact fun h => append_ne_self (by simp) ((String.append_assoc ..).symm.trans h.2.2.1)
  · simp [shape, leaf, enumOf, memberShape, Value.typeName, Value.display, String.append_assoc]
  · rintro ⟨-, -, -, hmembers⟩
    have hvalue := (Prod.mk.inj (List.cons.inj hmembers).1).1
    exact append_ne_self (by simp) ((String.append_assoc ..).symm.trans (Value.text.inj hvalue))
  · simp [shape, leaf, enumOf, memberShape, Value.typeName, Value.display, String.append_assoc]
  · simp [SameStructure, enumOf, leaf]
  · simp [shape, interfaceOf, shapeOfProperties, String.append_assoc]
  · exact fun h => h.2.2.2
  · have hsplit : ");reference(" = ");" ++ ("reference" ++ "(") := by decide
    simp only [allOfModels, referenceTo, leaf, shape, shapeOfMembers, Kind.label, hsplit,
      String.append_assoc, Bool.false_eq_true, if_false, String.append_empty]
  · exact fun h => h.2.2.2
  · have hsplit : ");interface(" = ");" ++ ("interface" ++ "(") := by decide
    simp only [allOfModels, interfaceOf, shape, shapeOfMembers, shapeOfProperties, Kind.label,
      hsplit, String.append_assoc, Bool.false_eq_true, if_false, String.append_empty]
  · exact fun h => h.2.2.2
  · simp [shape, leaf, enumOf, memberShape, Value.typeName, Value.display, Value.displayItems,
      String.append_assoc]
  · simp [SameStructure, enumOf, leaf]

end TypedClient.Model
