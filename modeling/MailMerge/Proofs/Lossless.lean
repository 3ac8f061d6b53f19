import MailMerge.Proofs.WrittenForms

/-!
# Documents lose nothing

What is written as a document is read back as it was: field values, references,
records, columns, conditions, queries, schemas and seeds, as far as they hold no
decimal. One kind of date is not told by how it is written: one in a leap second that
ends no minute, which is read back as a part of the second that comes after. The parts
of a value stand inside of lists and objects, so each form is read at any depth; only
the members of an attribute, which are kept until its end is seen, may not stand too
deep.

Main facts:

* `Json.reads_value`, `Json.reads_attribute`: the two forms that mix a kind with what
  belongs to it;
* `Json.ofText_write`: when the texts of these data are decoded to what they were
  written from;
* `Json.strayLeap_lost`: a date that is not.
-/

namespace MailMerge

section Kept

/-- Whether a value is a decimal. -/
def Value.isDecimal : Value → Bool
  | .decimal _ => true
  | _ => false

/-- Whether a field of a record holds a decimal. -/
def Record.hasDecimal (r : Record) : Bool :=
  r.fields.members.any fun field => field.2.isDecimal

/-- Whether a condition of a query is about a decimal. -/
def Query.hasDecimal (q : Query) : Bool :=
  q.conditions.any fun c => c.value.isDecimal

/-- Whether a record of a seed has a decimal. -/
def Seed.hasDecimal (s : Seed) : Bool :=
  s.records.any Record.hasDecimal

/-- Whether a value is a date in a leap second that ends no minute. -/
def Value.isStray : Value → Bool
  | .dateTime t => t.isStray
  | _ => false

/-- Whether a field of a record holds such a date. -/
def Record.hasStray (r : Record) : Bool :=
  r.fields.members.any fun field => field.2.isStray

/-- Whether a condition of a query is about such a date. -/
def Query.hasStray (q : Query) : Bool :=
  q.conditions.any fun c => c.value.isStray

/-- Whether a record of a seed has such a date. -/
def Seed.hasStray (s : Seed) : Bool :=
  s.records.any Record.hasStray

/-- The value with its date as it is written. -/
def Value.told : Value → Value
  | .dateTime t => .dateTime t.told
  | v => v

/-- The record with its dates as they are written. -/
def Record.told (r : Record) : Record :=
  { r with fields := r.fields.map Value.told }

/-- The condition with its date as it is written. -/
def Condition.told (c : Condition) : Condition :=
  { c with value := c.value.told }

/-- The query with its dates as they are written. -/
def Query.told (q : Query) : Query :=
  { q with conditions := q.conditions.map Condition.told }

/-- The seed with its dates as they are written. -/
def Seed.told (s : Seed) : Seed :=
  { s with records := s.records.map Record.told }

theorem Value.told_eq_self_iff
    (v : Value) :
    v.told = v ↔ v.isStray = false := by
  cases v with
  | dateTime t =>
      exact (Value.dateTime.injEq _ _).to_iff.trans t.told_eq_self_iff
  | _ =>
      exact iff_of_true rfl rfl

/-- What is done to each item changes a list unless it changes no item. -/
theorem map_eq_self_iff_of_any
    {α : Type}
    {f : α → α}
    {p : α → Bool}
    (h : ∀ a, f a = a ↔ p a = false)
    (as : List α) :
    as.map f = as ↔ as.any p = false := by
  induction as with
  | nil =>
      exact iff_of_true rfl rfl
  | cons a as ih =>
      rw [List.map_cons, List.cons.injEq, h, ih, List.any_cons, Bool.or_eq_false_iff]

theorem Record.told_eq_self_iff
    (r : Record) :
    r.told = r ↔ r.hasStray = false := by
  obtain ⟨entity, id, fields⟩ := r
  have hfields := fields.map_eq_self_iff Value.told
  simp only [Value.told_eq_self_iff] at hfields
  simpa [Record.told, Record.hasStray] using hfields

theorem Condition.told_eq_self_iff
    (c : Condition) :
    c.told = c ↔ c.value.isStray = false := by
  obtain ⟨field, operator, value⟩ := c
  simpa [Condition.told] using value.told_eq_self_iff

theorem Query.told_eq_self_iff
    (q : Query) :
    q.told = q ↔ q.hasStray = false := by
  obtain ⟨entity, columns, conditions⟩ := q
  have hconditions := map_eq_self_iff_of_any Condition.told_eq_self_iff conditions
  simpa [Query.told, Query.hasStray] using hconditions

theorem Seed.told_eq_self_iff
    (s : Seed) :
    s.told = s ↔ s.hasStray = false := by
  obtain ⟨records, schemas⟩ := s
  have hrecords := map_eq_self_iff_of_any Record.told_eq_self_iff records
  simpa [Seed.told, Seed.hasStray] using hrecords

end Kept

namespace Json

open Shape

variable {depth : Nat}

/-- A text is decoded to what its document is read as. -/
theorem ofText_of_reads
    {α : Type}
    {d : Decoder α}
    {j : Json}
    {a : α}
    (h : Reads d 0 j a) :
    Decode.ofText d (write j) = .ok a :=
  Decode.ofText_of_read (read_write j) h

section Values

theorem reads_reference
    (depth : Nat)
    (r : Reference) :
    Reads reference depth (ofReference r) r := by
  obtain ⟨entity, id, name⟩ := r
  cases name with
  | none =>
      have hname : Collects (Field.withDefault "name" (Decode.nullable Decode.text) none)
          (depth + 1) [] none :=
        collects_default
      exact ((hname.required (reads_uuid _ id) rfl).required (reads_text _ entity) rfl).reads _
  | some name =>
      have hname : Collects (Field.withDefault "name" (Decode.nullable Decode.text) none)
          (depth + 1) [("name".toList, text name)] (some name) :=
        collects_withDefault (reads_nullable_text _ name)
      exact ((hname.required (reads_uuid _ id) rfl).required (reads_text _ entity) rfl).reads _

theorem reads_tag
    (depth : Nat)
    (kind : ValueKind) :
    Reads ValueKind.tag depth (text kind.name) kind := by
  have hname : ValueKind.ofName? kind.name = some kind := by
    cases kind <;> rfl
  exact reads_plainVariant hname depth

theorem valueOfMembers_type
    {draft draft' : ValueDraft}
    {v : Node}
    (h : draft.putKind depth v = .ok draft')
    (ending : Ending)
    (rest : List (Key × Node)) :
    valueOfMembers depth draft ending ((⟨"type".toList, true⟩, v) :: rest) =
      valueOfMembers depth draft' ending rest := by
  rw [valueOfMembers, if_pos rfl, if_pos rfl, h]
  rfl

theorem valueOfMembers_value
    {draft draft' : ValueDraft}
    {v : Node}
    (h : draft.putContent depth v = .ok draft')
    (ending : Ending)
    (rest : List (Key × Node)) :
    valueOfMembers depth draft ending ((⟨"value".toList, true⟩, v) :: rest) =
      valueOfMembers depth draft' ending rest := by
  rw [valueOfMembers, if_pos rfl, if_neg (by decide), if_pos rfl, h]
  rfl

/-- A type alone is enough for the null value. -/
theorem reads_null
    (depth : Nat) :
    Reads value depth (ofValue .null) .null :=
  rfl

/-- A type and what is written for it are read together. -/
theorem reads_typed
    (kind : ValueKind)
    {j : Json}
    {v : Value}
    (h : Reads kind.content (depth + 1) j v) :
    Reads value depth (typed kind j) v := by
  have hkind : ValueDraft.nothing.putKind (depth + 1) (text kind.name).node =
      .ok (.kind kind) := by
    have htag : ValueKind.tag (depth + 1) (text kind.name).node = .ok kind :=
      reads_tag (depth + 1) kind
    unfold ValueDraft.putKind
    dsimp only
    rw [htag]
    rfl
  have hcontent : (ValueDraft.kind kind).putContent (depth + 1) j.node = .ok (.complete v) := by
    unfold Reads at h
    unfold ValueDraft.putContent
    dsimp only
    rw [h]
    rfl
  change valueOfMembers (depth + 1) .nothing .closed
    [(⟨"type".toList, true⟩, (text kind.name).node), (⟨"value".toList, true⟩, j.node)] = _
  rw [valueOfMembers_type hkind, valueOfMembers_value hcontent]
  rfl

/-- A field value that is no decimal is read as it is written. -/
theorem reads_value
    {v : Value}
    (h : v.isDecimal = false)
    (depth : Nat) :
    Reads value depth (ofValue v) v.told := by
  cases v with
  | null =>
      exact reads_null depth
  | text t =>
      exact reads_typed .text (reads_map (reads_text _ t) Value.text)
  | integer n =>
      exact reads_typed .integer (reads_map (reads_int64 _ n) Value.integer)
  | decimal x =>
      exact Bool.noConfusion h
  | boolean b =>
      exact reads_typed .boolean (reads_map (reads_bool _ b) Value.boolean)
  | dateTime t =>
      exact reads_typed .dateTime (reads_map (reads_instant _ t) Value.dateTime)
  | optionSet code =>
      exact reads_typed .optionSet (reads_map (reads_int32 _ code) Value.optionSet)
  | reference r =>
      exact reads_typed .reference (reads_map (reads_reference _ r) Value.reference)
  | id u =>
      exact reads_typed .id (reads_map (reads_uuid _ u) Value.id)

theorem reads_record
    {r : Record}
    (h : r.hasDecimal = false)
    (depth : Nat) :
    Reads record depth (ofRecord r) r.told := by
  have hvalues : ∀ field ∈ r.fields.members,
      Reads value (depth + 2) (ofValue field.2) field.2.told := by
    intro field hfield
    have hall := List.any_eq_false.1 h field hfield
    exact reads_value (Bool.eq_false_iff.2 hall) _
  have hfields : Collects (Field.withDefault "fields" (Decode.dict value) .empty) (depth + 1)
      [("fields".toList, _)] (r.fields.map Value.told) :=
    collects_withDefault (reads_map_dict hvalues)
  exact ((hfields.required (reads_uuid _ r.id) rfl).required (reads_text _ r.entity) rfl).reads _

end Values

section Queries

theorem reads_columns
    (depth : Nat)
    (c : Columns) :
    Reads columns depth (ofColumns c) c := by
  cases c with
  | all =>
      exact reads_variant_alone (by rfl) depth
  | only names =>
      have hnames := reads_list fun name (_ : name ∈ names) => reads_text (depth + 1 + 1) name
      exact reads_variant_content (by rfl) (reads_map hnames Columns.only)

theorem reads_operator
    (depth : Nat)
    (o : Operator) :
    Reads (Decode.plainVariant operatorOfName?) depth (text (operatorName o)) o := by
  have hname : operatorOfName? (operatorName o) = some o := by
    cases o <;> rfl
  exact reads_plainVariant hname depth

theorem reads_condition
    {c : Condition}
    (h : c.value.isDecimal = false)
    (depth : Nat) :
    Reads condition depth (ofCondition c) c.told := by
  have hvalue : Collects (Field.withDefault "value" value .null) (depth + 1)
      [("value".toList, ofValue c.value)] c.value.told :=
    collects_withDefault (reads_value h _)
  exact ((hvalue.required (reads_operator _ c.operator) rfl).required
    (reads_text _ c.field) rfl).reads _

theorem reads_query
    {q : Query}
    (h : q.hasDecimal = false)
    (depth : Nat) :
    Reads query depth (ofQuery q) q.told := by
  have hconditions : Collects (Field.withDefault "conditions" (Decode.list condition) [])
      (depth + 1) [("conditions".toList, array (q.conditions.map ofCondition))]
      (q.conditions.map Condition.told) := by
    apply collects_withDefault
    apply reads_map_list
    intro c hc
    have hc' : c.value.isDecimal = false := by
      have hall := List.any_eq_false.1 h c hc
      simpa using hall
    exact reads_condition hc' _
  exact ((hconditions.withDefault (reads_columns _ q.columns) rfl).required
    (reads_text _ q.entity) rfl).reads _

end Queries

section Schemas

theorem reads_choice
    (depth : Nat)
    (c : Choice) :
    Reads choice depth (ofChoice c) c :=
  ((collects_required (reads_text _ c.label)).required (reads_int32 _ c.code) rfl).reads _

theorem usableItems_nodes
    {items : List Json}
    (h : ∀ item ∈ items, item.node.usable depth = true) :
    Node.usableItems depth (nodes items) = true := by
  induction items with
  | nil =>
      rfl
  | cons item items ih =>
      rw [nodes_cons, Node.usableItems, Bool.and_eq_true]
      exact ⟨h item List.mem_cons_self, ih fun j hj => h j (List.mem_cons_of_mem _ hj)⟩

theorem usable_choice
    (h : depth + 1 ≤ Node.depthLimit)
    (c : Choice) :
    (ofChoice c).node.usable depth = true := by
  have hleast := c.code.le_toInt
  have hmost := c.code.toInt_lt
  have hnumber := numberOf_eq (n := c.code.toInt) (by omega) (by omega)
  simp [ofChoice, ofMembers, node, memberNodes, Node.usable, Node.usableMembers, hnumber, h]

theorem usable_choices
    (h : depth + 2 ≤ Node.depthLimit)
    (choices : List Choice) :
    (array (choices.map ofChoice)).node.usable depth = true := by
  have hitems : Node.usableItems (depth + 1) (nodes (choices.map ofChoice)) = true := by
    apply usableItems_nodes
    intro item hitem
    obtain ⟨c, -, rfl⟩ := List.mem_map.1 hitem
    exact usable_choice h c
  have hdepth : depth + 1 ≤ Node.depthLimit := Nat.le_of_succ_le h
  simp [node, Node.usable, hitems, hdepth]

/-- The members of a kind can be kept, and none of them is the name of the attribute. -/
theorem usable_kindMembers
    (h : depth + 2 ≤ Node.depthLimit)
    (kind : AttributeKind) :
    ∀ member ∈ kindMembers kind,
      member.1.toList ≠ "name".toList ∧ member.2.node.usable depth = true := by
  cases kind with
  | picklist choices =>
      have hchoices := usable_choices h choices
      intro member hmember
      simp only [kindMembers, List.mem_cons, List.not_mem_nil, or_false] at hmember
      rcases hmember with rfl | rfl
      · exact ⟨by simp, rfl⟩
      · exact ⟨by simp, hchoices⟩
  | text format =>
      cases format <;> simp [kindMembers, word, node, Node.usable]
  | _ =>
      simp [kindMembers, word, node, Node.usable]

/-- The kind of an attribute is read from its members. -/
theorem attributeKind_kindMembers
    (depth : Nat)
    (kind : AttributeKind) :
    attributeKind depth ((kindMembers kind).map fun (name, j) => (name.toList, j.node)) =
      .ok kind := by
  cases kind with
  | text format =>
      cases format <;> rfl
  | picklist choices =>
      have hchoices : Decode.list choice depth (array (choices.map ofChoice)).node = .ok choices :=
        reads_list fun c _ => reads_choice _ c
      change AttributeKind.picklist <$> Decode.kept _ depth (array (choices.map ofChoice)).node = _
      unfold Decode.kept
      rw [hchoices]
      rfl
  | _ =>
      rfl

/-- Behind its name the members of an attribute are kept for its kind. -/
theorem attributeOfMembers_kept
    {members : List (String × Json)}
    (h : ∀ member ∈ members,
      member.1.toList ≠ "name".toList ∧ member.2.node.usable depth = true)
    (name : Text)
    (kept : List (Text × Node)) :
    attributeOfMembers depth (some name) kept .closed
        (memberNodes (members.map fun (name, j) => (name.toList, j))) =
      (attributeKind depth
        (kept.reverse ++ members.map fun (name, j) => (name.toList, j.node))).map
          fun kind => ⟨name, kind⟩ := by
  induction members generalizing kept with
  | nil =>
      simp only [List.map_nil, List.append_nil]
      rfl
  | cons member members ih =>
      obtain ⟨key, j⟩ := member
      obtain ⟨hkey, husable⟩ := h (key, j) List.mem_cons_self
      have hrest := ih (fun m hm => h m (List.mem_cons_of_mem _ hm)) ((key.toList, j.node) :: kept)
      rw [List.map_cons, memberNodes_cons, attributeOfMembers, if_pos rfl, if_neg hkey,
        if_pos husable, hrest, List.reverse_cons, List.append_assoc]
      rfl

/-- An attribute is read as itself where its members can be kept. -/
theorem reads_attribute
    (h : depth + 3 ≤ Node.depthLimit)
    (a : Attribute) :
    Reads attributeDecoder depth (ofAttribute a) a := by
  have hmembers := attributeOfMembers_kept (usable_kindMembers h a.kind) a.name []
  rw [List.reverse_nil, List.nil_append, attributeKind_kindMembers] at hmembers
  exact hmembers

theorem reads_schema
    (h : depth + 5 ≤ Node.depthLimit)
    (s : Schema) :
    Reads schema depth (ofSchema s) s := by
  have hattributes : Collects (Field.withDefault "attributes" (Decode.list attributeDecoder) [])
      (depth + 1) [("attributes".toList, array (s.attributes.map ofAttribute))] s.attributes :=
    collects_withDefault (reads_list fun a _ => reads_attribute h a)
  exact (hattributes.required (reads_text _ s.entity) rfl).reads _

theorem reads_seed
    {s : Seed}
    (h : s.hasDecimal = false) :
    Reads seed 0 (ofSeed s) s.told := by
  have hschemas : Collects (Field.withDefault "metadata" (Decode.list schema) []) 1
      [("metadata".toList, array (s.schemas.map ofSchema))] s.schemas :=
    collects_withDefault (reads_list fun schema _ => reads_schema (by decide) schema)
  have hrecords : Reads (Decode.list record) 1 (array (s.records.map ofRecord))
      (s.records.map Record.told) := by
    apply reads_map_list
    intro r hr
    have hr' : r.hasDecimal = false := by
      have hall := List.any_eq_false.1 h r hr
      simpa using hall
    exact reads_record hr' _
  exact (hschemas.withDefault hrecords rfl).reads _

end Schemas

/-- What is decoded is what was written exactly when nothing is lost in the writing. -/
theorem ofText_write_eq_iff
    {α : Type}
    {d : Decoder α}
    {j : Json}
    {told a : α}
    {p : Bool}
    (h : Reads d 0 j told)
    (htold : told = a ↔ p = false) :
    Decode.ofText d (write j) = .ok a ↔ p = false := by
  rw [ofText_of_reads h, Except.ok.injEq, htold]

/-- Field values, references, records, columns, conditions, queries, schemas and seeds
without decimals: the text of each is decoded to what it was written from if and only if
none of its dates lies in a leap second that ends no minute. -/
theorem ofText_write :
    (∀ v : Value, v.isDecimal = false →
        (Decode.ofText value (write (ofValue v)) = .ok v ↔ v.isStray = false)) ∧
      (∀ r : Reference, Decode.ofText reference (write (ofReference r)) = .ok r) ∧
      (∀ r : Record, r.hasDecimal = false →
        (Decode.ofText record (write (ofRecord r)) = .ok r ↔ r.hasStray = false)) ∧
      (∀ c : Columns, Decode.ofText columns (write (ofColumns c)) = .ok c) ∧
      (∀ c : Condition, c.value.isDecimal = false →
        (Decode.ofText condition (write (ofCondition c)) = .ok c ↔ c.value.isStray = false)) ∧
      (∀ q : Query, q.hasDecimal = false →
        (Decode.ofText query (write (ofQuery q)) = .ok q ↔ q.hasStray = false)) ∧
      (∀ s : Schema, Decode.ofText schema (write (ofSchema s)) = .ok s) ∧
      (∀ s : Seed, s.hasDecimal = false →
        (Decode.ofText seed (write (ofSeed s)) = .ok s ↔ s.hasStray = false)) :=
  ⟨fun v h => ofText_write_eq_iff (reads_value h 0) v.told_eq_self_iff,
    fun r => ofText_of_reads (reads_reference 0 r),
    fun r h => ofText_write_eq_iff (reads_record h 0) r.told_eq_self_iff,
    fun c => ofText_of_reads (reads_columns 0 c),
    fun c h => ofText_write_eq_iff (reads_condition h 0) c.told_eq_self_iff,
    fun q h => ofText_write_eq_iff (reads_query h 0) q.told_eq_self_iff,
    fun s => ofText_of_reads (reads_schema (by decide) s),
    fun s h => ofText_write_eq_iff (reads_seed h) s.told_eq_self_iff⟩

/-- A seed with a leap second in one of its records. -/
def leapSeed : Seed where
  records := [⟨"deal".toList, .zero, ⟨[("closed".toList, .dateTime .yearsEnd)], by decide⟩⟩]
  schemas := [⟨"deal".toList, [⟨"closed".toList, .dateTime⟩]⟩]

/-- The leap second at the end of a year is still there when the seed is read back. -/
theorem ofText_write_leapSeed :
    leapSeed.hasDecimal = false ∧
      Decode.ofText seed (write (ofSeed leapSeed)) = .ok leapSeed := by
  obtain ⟨-, -, -, -, -, -, -, hseed⟩ := ofText_write
  exact ⟨rfl, (hseed leapSeed rfl).2 rfl⟩

/-- A leap second after the second 30 of a minute is written like the second 31, so it is
not read back. -/
theorem strayLeap_lost :
    let stray : Value := .dateTime .strayLeap
    let next : Value := .dateTime Calendar.Instant.strayLeap.told
    Calendar.Instant.strayLeap.told.second = 1715936731 ∧
      Calendar.Instant.strayLeap.told.nano = 500000000 ∧
      stray.isDecimal = false ∧
      write (ofValue stray) = write (ofValue next) ∧
      Decode.ofText value (write (ofValue stray)) = .ok next ∧
      Decode.ofText value (write (ofValue stray)) ≠ .ok stray := by
  intro stray next
  have hwritten : write (ofValue stray) = write (ofValue next) := by
    decide +kernel
  have hread : Decode.ofText value (write (ofValue stray)) = .ok next :=
    ofText_of_reads (reads_value rfl 0)
  have hother : next ≠ stray := by
    decide
  refine ⟨rfl, rfl, rfl, hwritten, hread, ?_⟩
  rw [hread]
  exact fun hsame => hother (Except.ok.inj hsame)

end Json

end MailMerge
