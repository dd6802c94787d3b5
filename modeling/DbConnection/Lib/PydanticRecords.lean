import DbConnection.Lib.PydanticFields

/-!
# What a declared model reads of a record

The reading of plain data by a declared model, as a relation between the payload and the values of
the fields. `Field.Reads` says which value a field has, given what the payload has for it and the
values of the fields before it, and `ModelDecl.Values` that a record has the fields of a model in
their order, each with such a value. `ModelDecl.validate_iff` is the connection: a model that keeps
no extra keys accepts a payload exactly when there is such a record, which its validator of the whole
model may rewrite.

A record that a model accepted is itself a payload of the model: `ModelDecl.validate_record` says
when the model reads it as it is.
-/

namespace Pydantic

open PyData

/-- The items before a key. -/
def before (values : Dict Json) (key : String) : Dict Json :=
  values.takeWhile fun item => item.1 != key

/-- What a payload gives for a field. -/
def Field.given (field : Field) (payload : Dict Json) : Option Json :=
  (field.validationAlias.bind fun key => payload.lookup key).or (payload.lookup field.name)

/-- A field that is given a value, or nothing, has the value `w`. -/
def Field.Reads (field : Field) (soFar : Dict Json) (given : Option Json) (w : Json) : Prop :=
  match given with
  | some value => ∃ r, field.readInput soFar (.json value) = .ok r ∧ r.value.toJson = w
  | none => field.default = some w

/-- The record has the fields in their order, and each has a value that it reads of the payload. -/
structure FieldValues (fields : List Field) (payload soFar out : Dict Json) : Prop where
  keys : out.map Prod.fst = fields.map Field.name
  reads : ∀ field ∈ fields, ∃ w, out.lookup field.name = some w ∧
    field.Reads (soFar ++ before out field.name) (field.given payload) w

/-- What a field is given of a payload of plain data. -/
theorem Field.lookup_toFieldInputs (field : Field) (payload : Dict Json) :
    field.lookup (toFieldInputs payload) = (field.given payload).map FieldInput.json := by
  unfold Field.lookup Field.given
  rw [Pydantic.lookup_toFieldInputs]
  cases field.validationAlias with
  | none => rfl
  | some key =>
    simp only [Option.bind_some, Pydantic.lookup_toFieldInputs]
    cases payload.lookup key <;> rfl

/-- The entry of a field has a value that the field reads. -/
theorem Field.Entry.reads {field : Field} {payload soFar : Dict Json}
    {entry : String × FieldReading × Bool} (h : field.Entry (toFieldInputs payload) soFar entry) :
    field.Reads soFar (field.given payload) entry.2.1.value.toJson := by
  unfold Field.Reads
  rcases h.2 with ⟨input, hl, -, hr⟩ | ⟨hl, -, d, hd, he⟩
  · rw [field.lookup_toFieldInputs] at hl
    obtain ⟨value, hgiven, rfl⟩ := Option.map_eq_some_iff.mp hl
    rw [hgiven]
    exact ⟨_, hr, rfl⟩
  · rw [field.lookup_toFieldInputs, Option.map_eq_none_iff] at hl
    rw [hl, he]
    exact hd

/-- The items after the first, of a record that starts with another key. -/
theorem lookup_cons_of_ne {values : Dict Json} {name key : String} (w : Json) (hne : key ≠ name) :
    List.lookup key ((name, w) :: values) = values.lookup key := by
  rw [List.lookup_cons, beq_eq_false_iff_ne.mpr hne]

theorem before_cons_of_ne {values : Dict Json} {name key : String} (w : Json) (hne : key ≠ name) :
    before ((name, w) :: values) key = (name, w) :: before values key :=
  List.takeWhile_cons_of_pos (bne_iff_ne.mpr hne.symm)

theorem before_cons_self (values : Dict Json) (name : String) (w : Json) :
    before ((name, w) :: values) name = [] :=
  List.takeWhile_cons_of_neg (by simp)

/-- The record of the first field and the rest. -/
theorem fieldValues_cons_iff {field : Field} {fields : List Field} {payload soFar out : Dict Json}
    (hnew : field.name ∉ fields.map Field.name) :
    FieldValues (field :: fields) payload soFar out ↔
      ∃ w rest, out = (field.name, w) :: rest ∧
        field.Reads soFar (field.given payload) w ∧
        FieldValues fields payload (soFar ++ [(field.name, w)]) rest := by
  have hne : ∀ f ∈ fields, f.name ≠ field.name := fun f hf he => hnew (he ▸ List.mem_map_of_mem hf)
  -- What the rest read does not depend on whether the first is in the record or in front of it.
  have hrest : ∀ f ∈ fields, ∀ (w : Json) (rest : Dict Json) (v : Json),
      (List.lookup f.name ((field.name, w) :: rest) = some v ∧
        f.Reads (soFar ++ before ((field.name, w) :: rest) f.name) (f.given payload) v) ↔
      (rest.lookup f.name = some v ∧
        f.Reads (soFar ++ [(field.name, w)] ++ before rest f.name) (f.given payload) v) := by
    intro f hf w rest v
    rw [lookup_cons_of_ne w (hne f hf), before_cons_of_ne w (hne f hf), List.append_assoc,
      List.singleton_append]
  constructor
  · rintro ⟨hkeys, hreads⟩
    rw [List.map_cons] at hkeys
    obtain ⟨⟨name, w⟩, rest, rfl, rfl, hrestKeys⟩ := List.map_eq_cons_iff.mp hkeys
    refine ⟨w, rest, rfl, ?_, hrestKeys, ?_⟩
    · obtain ⟨w', hw', hr⟩ := hreads field List.mem_cons_self
      rw [List.lookup_cons_self, Option.some.injEq] at hw'
      rwa [before_cons_self, List.append_nil, ← hw'] at hr
    · intro f hf
      obtain ⟨v, hv⟩ := hreads f (List.mem_cons_of_mem _ hf)
      exact ⟨v, (hrest f hf w rest v).mp hv⟩
  · rintro ⟨w, rest, rfl, hr, hvalues⟩
    refine ⟨?_, ?_⟩
    · rw [List.map_cons, List.map_cons, hvalues.keys]
    · rw [List.forall_mem_cons]
      refine ⟨⟨w, List.lookup_cons_self, ?_⟩, ?_⟩
      · rwa [before_cons_self, List.append_nil]
      · intro f hf
        obtain ⟨v, hv⟩ := hvalues.reads f hf
        exact ⟨v, (hrest f hf w rest v).mpr hv⟩

/-- Fields are read without an error, with the values of a record, exactly when the record has the
fields with values that they read. -/
theorem readFields_iff {payload : Dict Json} {fields : List Field}
    (hnames : (fields.map Field.name).Nodup) (soFar : FieldsRead) (out : Dict Json) :
    (∃ read, readFields (toFieldInputs payload) fields soFar [] = (read, []) ∧
        FieldsRead.values read = soFar.values ++ out) ↔
      FieldValues fields payload soFar.values out := by
  induction fields generalizing soFar out with
  | nil =>
    constructor
    · rintro ⟨read, hread, hvalues⟩
      cases hread
      obtain rfl : out = [] := by simpa using hvalues
      exact ⟨rfl, fun field hf => absurd hf List.not_mem_nil⟩
    · rintro ⟨hkeys, -⟩
      obtain rfl : out = [] := List.map_eq_nil_iff.mp hkeys
      exact ⟨soFar, rfl, (List.append_nil _).symm⟩
  | cons field fields ih =>
    rw [List.map_cons, List.nodup_cons] at hnames
    have hih := ih hnames.2
    have hsoFar : ∀ (r : FieldReading) (given : Bool) (rest : Dict Json),
        FieldsRead.values (soFar ++ [(field.name, r, given)]) ++ rest =
          soFar.values ++ (field.name, r.value.toJson) :: rest := by
      intro r given rest
      rw [FieldsRead.values_append, List.append_assoc]
      rfl
    rw [fieldValues_cons_iff hnames.1]
    constructor
    · rintro ⟨read, hread, hvalues⟩
      obtain ⟨r, given, hrest, hentry⟩ := readFields_cons hread
      obtain ⟨news, es, happend⟩ := readFields_append (toFieldInputs payload) fields
        (soFar ++ [(field.name, r, given)]) []
      rw [hrest] at happend
      have hnews : read = soFar ++ [(field.name, r, given)] ++ news := (Prod.mk.inj happend).1
      have hout : out = (field.name, r.value.toJson) :: FieldsRead.values news := by
        rw [hnews, FieldsRead.values_append, hsoFar] at hvalues
        exact (List.append_cancel_left hvalues).symm
      refine ⟨r.value.toJson, FieldsRead.values news, hout, hentry.reads, ?_⟩
      have hrec := (hih (soFar ++ [(field.name, r, given)]) (FieldsRead.values news)).mp
        ⟨read, hrest, by rw [hnews, FieldsRead.values_append]⟩
      rwa [FieldsRead.values_append] at hrec
    · rintro ⟨w, rest, rfl, hr, hvalues⟩
      have hstep : ∀ (r : FieldReading) (given : Bool), r.value.toJson = w →
          ∃ read, readFields (toFieldInputs payload) fields (soFar ++ [(field.name, r, given)]) [] =
              (read, []) ∧ FieldsRead.values read = soFar.values ++ (field.name, w) :: rest := by
        intro r given hw
        rw [← hw, ← hsoFar r given rest]
        rw [← hw] at hvalues
        refine (hih (soFar ++ [(field.name, r, given)]) rest).mpr ?_
        rwa [FieldsRead.values_append]
      unfold readFields
      rw [field.lookup_toFieldInputs]
      unfold Field.Reads at hr
      cases hgiven : field.given payload with
      | some value =>
        rw [hgiven] at hr
        obtain ⟨r, hread, hw⟩ := hr
        simp only [Option.map_some, hread]
        exact hstep r true hw
      | none =>
        rw [hgiven] at hr
        have hdefault : field.default = some w := hr
        simp only [Option.map_none, hdefault]
        exact hstep (.json w) false rfl

/-! ## Models -/

/-- The record with the values that a validator of the whole model gave to fields. -/
def rewrite (rewritten values : Dict Json) : Dict Json :=
  values.map fun item => (item.1, (rewritten.lookup item.1).getD item.2)

@[simp] theorem rewrite_nil (values : Dict Json) : rewrite [] values = values := List.map_id' values

theorem map_fst_rewrite (rewritten values : Dict Json) :
    (rewrite rewritten values).map Prod.fst = values.map Prod.fst := by
  unfold rewrite
  rw [List.map_map]
  rfl

/-- A value of a rewritten record. -/
theorem lookup_rewrite (rewritten values : Dict Json) (key : String) :
    (rewrite rewritten values).lookup key =
      (values.lookup key).map fun w => (rewritten.lookup key).getD w :=
  Dict.lookup_map_key (fun key w => (rewritten.lookup key).getD w) values key

/-- What stands before a key in a rewritten record. -/
theorem before_rewrite (rewritten values : Dict Json) (key : String) :
    before (rewrite rewritten values) key = rewrite rewritten (before values key) := by
  unfold before rewrite
  rw [List.takeWhile_map]
  rfl

/-- The record has the fields of the model, each with a value that it reads of the payload. -/
def ModelDecl.Values (decl : ModelDecl) (payload out : Dict Json) : Prop :=
  FieldValues decl.fields payload [] out

/-- The instance of a model with the values of a record. -/
def ModelDecl.record (decl : ModelDecl) (values : Dict Json) : Instance := ⟨decl.mro, values, values⟩

/-- The values of a reading without extra keys. -/
theorem toJsonDict_values_readingOf (fields : FieldsRead) (rewritten : Dict Json) :
    toJsonDict (readingOf fields rewritten []).values =
      rewrite rewritten (FieldsRead.values fields) := by
  unfold toJsonDict readingOf rewrite FieldsRead.values
  rw [List.append_nil, List.map_map, List.map_map]
  refine List.map_congr_left fun field _ => Prod.ext rfl ?_
  simp only [Function.comp_apply]
  cases rewritten.lookup field.1 <;> rfl

/-- A model without extra keys accepts a payload exactly when there is a record with its fields that
its validator accepts. The instance has that record, as the validator rewrote it. -/
theorem ModelDecl.validate_iff {decl : ModelDecl} (hextra : decl.extra ≠ .allow)
    (hnames : (decl.fields.map Field.name).Nodup) {payload : Dict Json} {v : Instance} :
    (ModelClass.ofDecl decl).validate (.obj payload) = .ok v ↔
      decl.extraErrors (toFieldInputs payload) = [] ∧
        ∃ out rewritten, decl.Values payload out ∧ decl.post out = .ok rewritten ∧
          v = decl.record (rewrite rewritten out) := by
  have hkept : decl.kept (toFieldInputs payload) = [] := if_neg hextra
  rw [ModelDecl.validate_eq_ok_iff]
  constructor
  · rintro ⟨r, hr, rfl⟩
    obtain ⟨fields, rewritten, hread, hnoExtra, hpost, rfl⟩ := ModelDecl.read_eq_ok_iff.mp hr
    rw [hkept, toJsonDict_values_readingOf]
    exact ⟨hnoExtra, FieldsRead.values fields, rewritten,
      (readFields_iff hnames [] _).mp ⟨fields, hread, rfl⟩, hpost, rfl⟩
  · rintro ⟨hnoExtra, out, rewritten, hvalues, hpost, rfl⟩
    obtain ⟨fields, hread, hout⟩ := (readFields_iff hnames [] out).mpr hvalues
    have hout : FieldsRead.values fields = out := hout
    rw [← hout] at hpost
    refine ⟨readingOf fields rewritten [], ?_, ?_⟩
    · exact ModelDecl.read_eq_ok_iff.mpr
        ⟨fields, rewritten, hread, hnoExtra, hpost, by rw [hkept]⟩
    · rw [toJsonDict_values_readingOf, hout]
      rfl

/-- No alias of a field is the name of one. -/
def NoAliasIsName (fields : List Field) : Prop :=
  ∀ field ∈ fields, ∀ key ∈ field.validationAlias, key ∉ fields.map Field.name

instance (fields : List Field) : Decidable (NoAliasIsName fields) :=
  inferInstanceAs
    (Decidable (∀ field ∈ fields, ∀ key ∈ field.validationAlias, key ∉ fields.map Field.name))

/-- A record with the keys of a model has none of the aliases. -/
theorem Field.lookup_alias_record {fields : List Field} (halias : NoAliasIsName fields)
    {values : Dict Json} (hkeys : values.map Prod.fst = fields.map Field.name) {field : Field}
    (hf : field ∈ fields) {key : String} (hkey : key ∈ field.validationAlias) :
    values.lookup key = none := by
  rw [List.lookup_eq_none_iff]
  intro item hitem
  have hmem : item.1 ∈ fields.map Field.name := hkeys ▸ List.mem_map_of_mem hitem
  exact bne_iff_ne.mpr fun he => halias field hf key hkey (he ▸ hmem)

/-- A record with the keys of a model gives nothing that is no field's. -/
theorem ModelDecl.extraErrors_record {decl : ModelDecl} (halias : NoAliasIsName decl.fields)
    {values : Dict Json} (hkeys : values.map Prod.fst = decl.fields.map Field.name) :
    decl.extraErrors (toFieldInputs values) = [] := by
  have hitems : decl.extraItems (toFieldInputs values) = [] := by
    unfold ModelDecl.extraItems
    rw [List.filter_eq_nil_iff]
    intro item hitem
    obtain ⟨x, hx, rfl⟩ := List.mem_map.mp hitem
    have hmem : x.1 ∈ decl.fields.map Field.name := hkeys ▸ List.mem_map_of_mem hx
    obtain ⟨field, hf, hname⟩ := List.mem_map.mp hmem
    have hused : field.usedKey (toFieldInputs values) = field.name := by
      unfold Field.usedKey
      rw [Option.filter_eq_none_iff.mpr, Option.getD_none]
      intro key hkey
      unfold Dict.contains
      rw [lookup_toFieldInputs, Field.lookup_alias_record halias hkeys hf hkey]
      exact Bool.false_ne_true
    simp only [Bool.not_eq_true', Bool.not_eq_false, List.any_eq_true, beq_iff_eq]
    exact ⟨field, hf, hused.trans hname⟩
  unfold ModelDecl.extraErrors
  rw [hitems]
  simp

/-- A field of a record is given its value there. -/
theorem Field.given_record {fields : List Field} (halias : NoAliasIsName fields)
    {values : Dict Json} (hkeys : values.map Prod.fst = fields.map Field.name) {field : Field}
    (hf : field ∈ fields) : field.given values = values.lookup field.name := by
  have hnone : (field.validationAlias.bind fun key => values.lookup key) = none := by
    rw [Option.bind_eq_none_iff]
    exact fun key hkey => Field.lookup_alias_record halias hkeys hf hkey
  unfold Field.given
  rw [hnone, Option.none_or]

/-- A model reads a record of its fields as it is if each field does and the validator of the whole
model rewrites nothing. -/
theorem ModelDecl.validate_record {decl : ModelDecl} (hextra : decl.extra ≠ .allow)
    (hnames : (decl.fields.map Field.name).Nodup) (halias : NoAliasIsName decl.fields)
    {values : Dict Json} (hkeys : values.map Prod.fst = decl.fields.map Field.name)
    (hpost : decl.post values = .ok [])
    (hreads : ∀ field ∈ decl.fields, ∀ w, values.lookup field.name = some w →
      field.Reads (before values field.name) (some w) w) :
    (ModelClass.ofDecl decl).validate (.obj values) = .ok (decl.record values) := by
  refine (ModelDecl.validate_iff hextra hnames).mpr
    ⟨extraErrors_record halias hkeys, values, [], ⟨hkeys, ?_⟩, hpost, by rw [rewrite_nil]⟩
  intro field hf
  have hmem : field.name ∈ values.map Prod.fst := hkeys ▸ List.mem_map_of_mem hf
  have hsome : (values.lookup field.name).isSome = true := Dict.contains_iff_mem.mpr hmem
  obtain ⟨w, hw⟩ := Option.isSome_iff_exists.mp hsome
  refine ⟨w, hw, ?_⟩
  rw [Field.given_record halias hkeys hf, hw]
  exact hreads field hf w hw

/-- Each field of a record that a model reads as it is reads its value as it is. -/
theorem ModelDecl.reads_of_validate_record {decl : ModelDecl} (hextra : decl.extra ≠ .allow)
    (hnames : (decl.fields.map Field.name).Nodup) (halias : NoAliasIsName decl.fields)
    {values : Dict Json} (hkeys : values.map Prod.fst = decl.fields.map Field.name)
    (hpost : ∀ out, decl.post out = .ok [])
    (h : (ModelClass.ofDecl decl).validate (.obj values) = .ok (decl.record values))
    {field : Field} (hf : field ∈ decl.fields) {w : Json} (hw : values.lookup field.name = some w) :
    field.Reads (before values field.name) (some w) w := by
  obtain ⟨-, out, rewritten, hvalues, hout, hrecord⟩ :=
    (ModelDecl.validate_iff hextra hnames).mp h
  rw [hpost] at hout
  have hsame : values = out := by
    have hdump := congrArg Instance.dump hrecord
    rw [← Except.ok.inj hout, rewrite_nil] at hdump
    exact hdump
  obtain ⟨w', hw', hr⟩ := hvalues.reads field hf
  rw [← hsame, hw, Option.some.injEq] at hw'
  rw [Field.given_record halias hkeys hf, hw, ← hw', ← hsame, List.nil_append] at hr
  exact hr

/-- A model that forbids extra keys refuses a payload with a key that is no field's. -/
theorem ModelDecl.not_validate_of_key {decl : ModelDecl} (hforbid : decl.extra = .forbid)
    (hnames : (decl.fields.map Field.name).Nodup) {payload : Dict Json} {key : String}
    (hkey : key ∈ payload.map Prod.fst)
    (hnone : ∀ field ∈ decl.fields, field.name ≠ key ∧ field.validationAlias ≠ some key)
    (v : Instance) : (ModelClass.ofDecl decl).validate (.obj payload) ≠ .ok v := by
  intro h
  have hextra : decl.extra ≠ .allow := by
    rw [hforbid]
    decide
  obtain ⟨hnoExtra, -⟩ := (ModelDecl.validate_iff hextra hnames).mp h
  unfold ModelDecl.extraErrors at hnoExtra
  rw [if_pos hforbid, List.map_eq_nil_iff] at hnoExtra
  unfold ModelDecl.extraItems at hnoExtra
  rw [List.filter_eq_nil_iff] at hnoExtra
  obtain ⟨item, hitem, rfl⟩ := List.mem_map.mp hkey
  have hany := hnoExtra (item.1, .json item.2) (List.mem_map.mpr ⟨item, hitem, rfl⟩)
  simp only [Bool.not_eq_true', Bool.not_eq_false, List.any_eq_true, beq_iff_eq] at hany
  obtain ⟨field, hf, hused⟩ := hany
  rcases field.usedKey_eq (toFieldInputs payload) with halias | hname
  · exact (hnone field hf).2 (halias.trans (congrArg some hused))
  · exact (hnone field hf).1 (hname.symm.trans hused)

/-- A record that a model made has the keys of the model. -/
theorem ModelDecl.keys_of_validate {decl : ModelDecl} (hextra : decl.extra ≠ .allow)
    (hnames : (decl.fields.map Field.name).Nodup) {payload : Json} {v : Instance}
    (h : (ModelClass.ofDecl decl).validate payload = .ok v) :
    v.dumpJson.map Prod.fst = decl.fields.map Field.name := by
  obtain ⟨items, rfl⟩ := ModelDecl.exists_obj_of_validate h
  obtain ⟨-, out, rewritten, hvalues, -, rfl⟩ := (ModelDecl.validate_iff hextra hnames).mp h
  exact (map_fst_rewrite rewritten out).trans hvalues.keys

/-- What a model without extra keys or a validator of the whole model has for a field. -/
theorem ModelDecl.reads_of_validate {decl : ModelDecl} (hextra : decl.extra ≠ .allow)
    (hnames : (decl.fields.map Field.name).Nodup) (hpost : ∀ out, decl.post out = .ok [])
    {payload : Dict Json} {v : Instance}
    (h : (ModelClass.ofDecl decl).validate (.obj payload) = .ok v) {field : Field}
    (hf : field ∈ decl.fields) :
    ∃ w, v.dump.lookup field.name = some w ∧
      field.Reads (before v.dump field.name) (field.given payload) w := by
  obtain ⟨-, out, rewritten, hvalues, hout, rfl⟩ := (ModelDecl.validate_iff hextra hnames).mp h
  rw [hpost] at hout
  rw [← Except.ok.inj hout, rewrite_nil]
  exact hvalues.reads field hf

/-- What a model makes of a payload is the value of its reading. -/
theorem ModelClass.validate_eq_ok_iff {m : ModelClass} {payload : Json} {v : Instance} :
    m.validate payload = .ok v ↔ ∃ p, m.parse payload = .ok p ∧ p.value = v := by
  unfold ModelClass.validate
  cases m.parse payload with
  | error e => simp
  | ok p => simp

/-! ## Models that raise nothing else -/

/-- A field of a model raises the exceptions of the model. -/
theorem FieldType.readJson_model_raised_iff {m : ModelClass} {value : Json} {exc : RaisedException} :
    (FieldType.model m).readJson value = .error (.raised exc) ↔
      m.parse value = .error (.raised exc) := by
  simp only [FieldType.readJson]
  cases m.parse value with
  | ok r => simp
  | error e => cases e <;> simp

/-- A field of a model that raises no other exception raises none, nullable or not. -/
theorem ModelClass.Quiet.readJson_ne_raised {m : ModelClass} (h : m.Quiet) (value : Json)
    (exc : RaisedException) : (FieldType.model m).readJson value ≠ .error (.raised exc) ∧
      (FieldType.nullable (.model m)).readJson value ≠ .error (.raised exc) := by
  have hmodel : ∀ value, (FieldType.model m).readJson value ≠ .error (.raised exc) :=
    fun value hr => h value exc (FieldType.readJson_model_raised_iff.mp hr)
  refine ⟨hmodel value, ?_⟩
  intro hr
  cases value with
  | null => cases hr
  | _ => exact hmodel _ hr

/-- Neither the type nor a validator of the field raises another exception. -/
structure Field.Quiet (field : Field) : Prop where
  before : ∀ value exc, field.before value ≠ .error (.raised exc)
  type : ∀ value exc, field.type.readJson value ≠ .error (.raised exc)
  after : ∀ soFar value exc, field.after soFar value ≠ .error (.raised exc)

/-- A plain type raises no other exception. -/
theorem FieldType.readJson_ne_raised {type : FieldType} (hp : type.isPlain = true) (value : Json)
    (exc : RaisedException) : type.readJson value ≠ .error (.raised exc) := by
  intro h
  induction type generalizing value with
  | datetime parse => cases hp
  | model m => cases hp
  | list item => cases hp
  | nullable type ih =>
    cases value with
    | null => cases h
    | _ => exact ih hp _ h
  | any => cases h
  | _ =>
    simp only [readJson] at h
    repeat' split at h
    all_goals cases h

/-- A field without validators raises no other exception if its type does not. -/
theorem Field.NoValidators.quiet {field : Field} (h : field.NoValidators)
    (htype : ∀ value exc, field.type.readJson value ≠ .error (.raised exc)) : field.Quiet where
  before value exc he := by
    rw [h.1] at he
    cases he
  type := htype
  after soFar value exc he := by
    rw [h.2] at he
    cases he

/-- A field that is given by a type and a default raises no other exception if the type does not. -/
theorem Field.quiet_of_type {name : String} {type : FieldType} {default : Option Json}
    (htype : ∀ value exc, type.readJson value ≠ .error (.raised exc)) :
    (Field.of name type default).Quiet :=
  Field.NoValidators.quiet ⟨fun _ => rfl, fun _ _ => rfl⟩ htype

/-- A field that is given by a plain type and a default raises no other exception. -/
theorem Field.quiet_of {name : String} {type : FieldType} {default : Option Json}
    (hp : type.isPlain = true) : (Field.of name type default).Quiet :=
  quiet_of_type (FieldType.readJson_ne_raised hp)

/-- A field of a plain type raises no other exception if its validators do not. -/
theorem Field.quiet_of_validators {field : Field} (hp : field.type.isPlain = true)
    (hbefore : ∀ value exc, field.before value ≠ .error (.raised exc))
    (hafter : ∀ soFar value exc, field.after soFar value ≠ .error (.raised exc)) : field.Quiet :=
  ⟨hbefore, FieldType.readJson_ne_raised hp, hafter⟩

/-- What a field that raises no other exception reads of plain data is none. -/
theorem Field.Quiet.readInput_ne_raised {field : Field} (h : field.Quiet) (soFar : Dict Json)
    (value : Json) (exc : RaisedException) :
    field.readInput soFar (.json value) ≠ .error (.raised exc) := by
  unfold readInput
  dsimp only
  cases hbefore : field.before value with
  | error e =>
    rintro he
    cases he
    exact h.before value exc hbefore
  | ok v =>
    dsimp only
    cases hread : field.type.readJson v with
    | error e =>
      rintro he
      cases he
      exact h.type v exc hread
    | ok reading =>
      dsimp only
      split
      · simp
      · rename_i u _
        cases hafter : field.after soFar u with
        | error e =>
          rintro he
          cases he
          exact h.after soFar u exc hafter
        | ok w =>
          dsimp only
          split <;> simp

/-- Fields that raise no other exception leave no exception among the failures. -/
theorem findSome_readFields (payload : Dict Json) {fields : List Field}
    (h : ∀ field ∈ fields, field.Quiet) :
    (readFields (toFieldInputs payload) fields [] []).2.findSome? Failure.raised? = none := by
  rw [Option.eq_none_iff_forall_ne_some]
  intro exc hexc
  rcases raises_of_readFields hexc with hnil | ⟨field, hf, input, soFar, exc', hinput, hr⟩
  · cases hnil
  · rw [field.lookup_toFieldInputs] at hinput
    obtain ⟨value, -, rfl⟩ := Option.map_eq_some_iff.mp hinput
    exact (h field hf).readInput_ne_raised soFar value exc' hr

/-- A declared model raises no other exception if neither its fields nor its own validator do. -/
theorem ModelDecl.quiet {decl : ModelDecl} (hfields : ∀ field ∈ decl.fields, field.Quiet)
    (hpost : ∀ values exc, decl.post values ≠ .error (.raised exc)) :
    (ModelClass.ofDecl decl).Quiet := by
  intro payload exc h
  cases payload with
  | obj items =>
    have hread : decl.read (toFieldInputs items) = .error (.raised exc) := by
      have h : decl.parseInputs (toFieldInputs items) = .error (.raised exc) := h
      unfold ModelDecl.parseInputs at h
      split at h
      · rename_i e he
        rw [he, Except.error.inj h]
      · cases h
    have hnone := findSome_readFields items hfields
    unfold ModelDecl.read at hread
    dsimp only at hread
    simp only [hnone] at hread
    split at hread
    · cases hread
    · split at hread
      · rename_i e he
        cases e with
        | invalid type message => cases hread
        | raised exc' => exact hpost _ exc' he
      · cases hread
  | _ => cases h

/-- A model of fields that raise no other exception raises none. -/
theorem ModelDecl.quiet_ofFields {mro : List ClassRef} {fields : List Field} {extra : Extra}
    (hfields : ∀ field ∈ fields, field.Quiet) :
    (ModelClass.ofDecl (.ofFields mro fields extra)).Quiet :=
  ModelDecl.quiet hfields fun _ _ h => by cases h

/-! ## Unions -/

/-- A union of two models that raise nothing else, of which only one accepts, reads what that one
does. -/
theorem unionParse_pair {mro : List ClassRef} {a b : ModelClass} (ha : a.Quiet) (hb : b.Quiet)
    {payload : Json} {p : Parsed}
    (h : (a.parse payload = .ok p ∧ ∀ v, b.validate payload ≠ .ok v) ∨
      (b.parse payload = .ok p ∧ ∀ v, a.validate payload ≠ .ok v)) :
    unionParse mro [a, b] payload = .ok p := by
  have hrefused : ∀ m : ModelClass, (∀ v, m.validate payload ≠ .ok v) →
      (m.parse payload).toOption = none := by
    intro m hm
    cases hp : m.parse payload with
    | error e => rfl
    | ok q => exact absurd (ModelClass.validate_eq_ok_iff.mpr ⟨q, hp, rfl⟩) (hm q.value)
  have hread : (Except.ok p : Except ModelError Parsed).toOption = some p := rfl
  have honly : [a.parse payload, b.parse payload].filterMap Except.toOption = [p] := by
    rcases h with ⟨hp, hother⟩ | ⟨hp, hother⟩
    · rw [hp, List.filterMap_cons_some hread, List.filterMap_cons_none (hrefused b hother),
        List.filterMap_nil]
    · rw [hp, List.filterMap_cons_none (hrefused a hother), List.filterMap_cons_some hread,
        List.filterMap_nil]
  have hquiet : NoneRaises [a.parse payload, b.parse payload] := by
    unfold NoneRaises
    rw [List.forall_mem_cons, List.forall_mem_singleton]
    exact ⟨ha payload, hb payload⟩
  exact unionOf_eq_ok_iff.mpr ⟨hquiet, congrArg smartUnion honly⟩

/-- What a union reads is what one of its members reads. -/
theorem exists_of_unionParse {mro : List ClassRef} {a b : ModelClass} {payload : Json} {p : Parsed}
    (h : unionParse mro [a, b] payload = .ok p) : a.parse payload = .ok p ∨ b.parse payload = .ok p := by
  obtain ⟨-, hp⟩ := unionOf_eq_ok_iff.mp h
  obtain ⟨reading, hmem, hok⟩ := List.mem_filterMap.mp (smartUnion_spec hp).1
  obtain ⟨m, hm, rfl⟩ := List.mem_map.mp hmem
  have hread : m.parse payload = .ok p := toOption_eq_some_iff.mp hok
  rw [List.mem_cons, List.mem_singleton] at hm
  rcases hm with rfl | rfl
  · exact Or.inl hread
  · exact Or.inr hread

/-! ## Fields that read their values as they are -/

/-- A field of a plain type reads a value between its validators. -/
theorem Field.reads_some_iff {field : Field} (hp : field.type.isPlain = true) {soFar : Dict Json}
    {value w : Json} :
    field.Reads soFar (some value) w ↔
      ∃ v u, field.before value = .ok v ∧ field.type.readJson v = .ok (.json u) ∧
        field.after soFar u = .ok w := by
  unfold Field.Reads Field.readInput
  constructor
  · rintro ⟨r, hr, rfl⟩
    cases hbefore : field.before value with
    | error e => simp [hbefore] at hr
    | ok v =>
      cases hread : field.type.readJson v with
      | error e => simp [hbefore, hread] at hr
      | ok reading =>
        obtain ⟨u, rfl, -⟩ := FieldType.readJson_of_readJson hp hread
        refine ⟨v, u, rfl, hread, ?_⟩
        simp only [hbefore, hread, FieldReading.json, FieldReading.plain] at hr
        cases hafter : field.after soFar u with
        | error e => simp [hafter] at hr
        | ok u' =>
          simp only [hafter] at hr
          by_cases hsame : u' = u
          · rw [if_pos hsame, Except.ok.injEq] at hr
            rw [← hr, hsame]
            rfl
          · rw [if_neg hsame, Except.ok.injEq] at hr
            rw [← hr]
            rfl
  · rintro ⟨v, u, hbefore, hread, hafter⟩
    simp only [hbefore, hread, FieldReading.json, FieldReading.plain, hafter]
    by_cases hsame : w = u
    · exact ⟨_, if_pos hsame, hsame.symm⟩
    · exact ⟨_, if_neg hsame, rfl⟩

/-- The field reads each value that it has as it is. -/
def Field.Stable (field : Field) : Prop :=
  ∀ soFar given w, field.Reads soFar given w → field.Reads soFar (some w) w

/-- A field that reads its values back is stable. -/
theorem Field.ReadsBack.stable {field : Field} (h : field.ReadsBack) : field.Stable := by
  intro soFar given w hr
  cases given with
  | some value =>
    obtain ⟨r, hread, rfl⟩ := hr
    obtain ⟨w, r', hw, hread', hw'⟩ := h.read soFar value r hread
    rw [hw]
    exact ⟨r', hread', by rw [hw']⟩
  | none =>
    obtain ⟨r', hread', hw'⟩ := h.default soFar w hr
    exact ⟨r', hread', by rw [hw']; rfl⟩

/-- A field is stable whose validators leave what they made, and its default, as it is. -/
theorem Field.stable_of {field : Field} (hp : field.type.isPlain = true)
    (hvalue : ∀ soFar value v u w, field.before value = .ok v →
      field.type.readJson v = .ok (.json u) → field.after soFar u = .ok w →
        field.before w = .ok w ∧ field.type.readJson w = .ok (.json w) ∧
          field.after soFar w = .ok w)
    (hdefault : ∀ soFar d, field.default = some d → field.Reads soFar (some d) d) :
    field.Stable := by
  intro soFar given w hr
  cases given with
  | none => exact hdefault soFar w hr
  | some value =>
    obtain ⟨v, u, hbefore, hread, hafter⟩ := (Field.reads_some_iff hp).mp hr
    obtain ⟨hb, ht, ha⟩ := hvalue soFar value v u w hbefore hread hafter
    exact (Field.reads_some_iff hp).mpr ⟨w, w, hb, ht, ha⟩

/-- A field with a validator before its type is stable if the validator leaves what the type made of
its values, and the default, as it is. -/
theorem Field.stable_before {name : String} {type : FieldType} {default : Option Json}
    {f : Json → Except FieldError Json} (hp : type.isPlain = true)
    (hvalue : ∀ value v u, f value = .ok v → type.readJson v = .ok (.json u) → f u = .ok u)
    (hdefault : ∀ d, default = some d → f d = .ok d ∧ type.readJson d = .ok (.json d)) :
    Field.Stable { Field.of name type default with before := f } := by
  refine Field.stable_of hp ?_ ?_
  · intro soFar value v u w hbefore hread hafter
    obtain rfl : u = w := Except.ok.inj hafter
    obtain ⟨_, hu, hback⟩ := FieldType.readJson_of_readJson hp hread
    cases hu
    exact ⟨hvalue value v u hbefore hread, hback, rfl⟩
  · intro soFar d hd
    obtain ⟨hf, hread⟩ := hdefault d hd
    exact (Field.reads_some_iff hp).mpr ⟨d, d, hf, hread, rfl⟩

/-- A field with a validator after its type is stable if the type and the validator leave what it
made of the type's values, and the default, as it is. -/
theorem Field.stable_after {name : String} {type : FieldType} {default : Option Json}
    {f : Dict Json → Json → Except FieldError Json} (hp : type.isPlain = true)
    (hvalue : ∀ soFar u w, type.readJson u = .ok (.json u) → f soFar u = .ok w →
      type.readJson w = .ok (.json w) ∧ f soFar w = .ok w)
    (hdefault : ∀ soFar d, default = some d →
      type.readJson d = .ok (.json d) ∧ f soFar d = .ok d) :
    Field.Stable { Field.of name type default with after := f } := by
  refine Field.stable_of hp ?_ ?_
  · intro soFar value v u w _ hread hafter
    obtain ⟨_, hu, hback⟩ := FieldType.readJson_of_readJson hp hread
    cases hu
    exact ⟨rfl, hvalue soFar u w hback hafter⟩
  · intro soFar d hd
    obtain ⟨hread, hf⟩ := hdefault soFar d hd
    exact (Field.reads_some_iff hp).mpr ⟨d, d, rfl, hread, hf⟩

/-- A field of a plain type without validators is stable if it must be given. -/
theorem Field.stable_required {name : String} {type : FieldType} (hp : type.isPlain = true) :
    (Field.required name type).Stable :=
  (Field.readsBack_of none hp fun d hd => by cases hd).stable

/-- A field of a plain type without validators is stable if its type reads the default as it is. -/
theorem Field.stable_default {name : String} {type : FieldType} {default : Json}
    (hp : type.isPlain = true) (hd : type.readJson default = .ok (.json default)) :
    (Field.of name type (some default)).Stable :=
  (Field.readsBack_of none hp fun d hdefault => by
    cases hdefault
    exact hd).stable

/-- A field of a plain type without validators is stable if it may be `None`. -/
theorem Field.stable_optional {name : String} {type : FieldType} (hp : type.isPlain = true) :
    (Field.optional name type).Stable := Field.stable_default hp rfl

/-- A field that is given by its type and default has no validators. -/
theorem Field.noValidators (name : String) (type : FieldType) (default : Option Json) :
    (Field.of name type default).NoValidators := ⟨fun _ => rfl, fun _ _ => rfl⟩

/-- What a field without validators reads does not depend on the fields before it. -/
theorem Field.NoValidators.reads_congr {field : Field} (h : field.NoValidators)
    {soFar soFar' : Dict Json} {given : Option Json} {w : Json} (hr : field.Reads soFar given w) :
    field.Reads soFar' given w := by
  cases given with
  | some value =>
    obtain ⟨r, hread, hw⟩ := hr
    rw [h.readInput] at hread
    exact ⟨r, by rw [h.readInput]; exact hread, hw⟩
  | none => exact hr

/-- A model without extra keys reads the instance that it made of a payload back if its fields are
stable, no alias is a name, and the validator of the whole model rewrites nothing. -/
theorem ModelDecl.readsBack_of_stable {decl : ModelDecl} (hextra : decl.extra ≠ .allow)
    (hnames : (decl.fields.map Field.name).Nodup) (halias : NoAliasIsName decl.fields)
    (hpost : ∀ out, decl.post out = .ok []) (hstable : ∀ field ∈ decl.fields, field.Stable) :
    (ModelClass.ofDecl decl).ReadsBack := by
  intro payload v h
  obtain ⟨items, rfl⟩ := ModelDecl.exists_obj_of_validate h
  obtain ⟨-, out, rewritten, hvalues, hout, rfl⟩ := (ModelDecl.validate_iff hextra hnames).mp h
  rw [hpost] at hout
  rw [← Except.ok.inj hout, rewrite_nil]
  refine ModelDecl.validate_record hextra hnames halias hvalues.keys (hpost out) ?_
  intro field hf w hw
  have hw : out.lookup field.name = some w := hw
  obtain ⟨w', hw', hr⟩ := hvalues.reads field hf
  rw [hw, Option.some.injEq] at hw'
  rw [← hw'] at hr
  exact hstable field hf _ _ _ hr

/-- A model all of whose fields but one are stable reads an instance back exactly when that field
reads its value as it is. -/
theorem ModelDecl.validate_dump_iff {decl : ModelDecl} (hextra : decl.extra ≠ .allow)
    (hnames : (decl.fields.map Field.name).Nodup) (halias : NoAliasIsName decl.fields)
    (hpost : ∀ out, decl.post out = .ok []) {special : Field} (hmem : special ∈ decl.fields)
    (hstable : ∀ field ∈ decl.fields, field = special ∨ field.Stable) {payload : Json}
    {v : Instance} (h : (ModelClass.ofDecl decl).validate payload = .ok v) {w : Json}
    (hw : v.dump.lookup special.name = some w) :
    (ModelClass.ofDecl decl).validate (.obj v.dump) = .ok v ↔
      special.Reads (before v.dump special.name) (some w) w := by
  obtain ⟨items, rfl⟩ := ModelDecl.exists_obj_of_validate h
  obtain ⟨-, out, rewritten, hvalues, hout, rfl⟩ := (ModelDecl.validate_iff hextra hnames).mp h
  rw [hpost] at hout
  rw [← Except.ok.inj hout, rewrite_nil] at hw ⊢
  constructor
  · exact fun hback => ModelDecl.reads_of_validate_record hextra hnames halias hvalues.keys hpost
      hback hmem hw
  · intro hread
    refine ModelDecl.validate_record hextra hnames halias hvalues.keys (hpost out) ?_
    intro field hf u hu
    have hu : out.lookup field.name = some u := hu
    obtain ⟨u', hu', hr⟩ := hvalues.reads field hf
    rw [hu, Option.some.injEq] at hu'
    rw [← hu'] at hr
    rcases hstable field hf with rfl | hfield
    · have hw : out.lookup field.name = some w := hw
      rw [hu, Option.some.injEq] at hw
      rw [hw]
      exact hread
    · exact hfield _ _ _ hr

/-- A model of fields that read their values back reads its instances back. -/
theorem ModelDecl.readsBack_ofFields {mro : List ClassRef} {fields : List Field} {extra : Extra}
    (hextra : extra ≠ .allow) (hnames : (fields.map Field.name).Nodup)
    (halias : NoAliasIsName fields) (hback : ∀ field ∈ fields, field.ReadsBack) :
    (ModelClass.ofDecl (.ofFields mro fields extra)).ReadsBack :=
  ModelDecl.readsBack_of_stable hextra hnames halias (fun _ => rfl)
    fun field hf => (hback field hf).stable

/-! ## Models that keep their payloads -/

/-- The type keeps each value that it accepts. -/
def FieldType.isVerbatim : FieldType → Bool
  | .int | .bool | .datetime _ | .model _ | .list _ => false
  | .nullable type => type.isVerbatim
  | _ => true

/-- What such a type reads is the value. -/
theorem FieldType.readJson_of_isVerbatim {type : FieldType} (hv : type.isVerbatim = true)
    {value : Json} {r : FieldReading} (h : type.readJson value = .ok r) : r = .json value := by
  induction type with
  | int => cases hv
  | bool => cases hv
  | datetime parse => cases hv
  | model m => cases hv
  | list item => cases hv
  | any => exact (Except.ok.inj h).symm
  | nullable type ih =>
    cases value with
    | null => exact (Except.ok.inj h).symm
    | _ => exact ih hv h
  | literal s =>
    simp only [readJson] at h
    split at h
    · exact (Except.ok.inj h).symm
    · cases h
  | str => cases value <;> first | exact (Except.ok.inj h).symm | cases h
  | dict => cases value <;> first | exact (Except.ok.inj h).symm | cases h
  | noneType => cases value <;> first | exact (Except.ok.inj h).symm | cases h
  | _ =>
    cases value <;> simp only [readJson, reduceCtorEq] at h
    split at h
    · exact (Except.ok.inj h).symm
    · cases h

/-- The model keeps its payloads: it keeps their keys, and its fields keep their values. -/
structure ModelDecl.KeepsPayload (decl : ModelDecl) : Prop extends decl.KeepsKeys where
  names : (decl.fields.map Field.name).Nodup
  noValidators : ∀ field ∈ decl.fields, field.NoValidators
  verbatim : ∀ field ∈ decl.fields, field.type.isVerbatim = true

/-- The dumps of what such a model read of a payload have the value of each field given. -/
theorem ModelDecl.KeepsPayload.lookup_dump_field {decl : ModelDecl} (hdecl : decl.KeepsPayload)
    {payload : Dict Json} {p : Parsed} (h : decl.parseInputs (toFieldInputs payload) = .ok p)
    {field : Field} (hf : field ∈ decl.fields) {value : Json}
    (hvalue : payload.lookup field.name = some value) :
    p.value.dump.lookup field.name = some value ∧ p.dumpSet.lookup field.name = some value := by
  have hinput : (toFieldInputs payload).lookup field.name = some (.json value) := by
    rw [lookup_toFieldInputs, hvalue]
    rfl
  -- The field read its value as it is.
  have hread : ∀ values r, field.readInput values (.json value) = .ok r → r = .json value := by
    intro values r hr
    rw [(hdecl.noValidators field hf).readInput] at hr
    exact FieldType.readJson_of_isVerbatim (hdecl.verbatim field hf) hr
  constructor
  · obtain ⟨fields, rewritten, hfields, -, hpost, rfl⟩ := ModelDecl.parseInputs_eq_ok_iff.mp h
    have hrw : rewritten = [] := by
      rw [hdecl.noPost] at hpost
      exact (Except.ok.inj hpost).symm
    subst hrw
    have hnames : (fields.map Prod.fst).Nodup := by
      have hn : fields.map Prod.fst = decl.fields.map Field.name := names_of_readFields hfields
      exact hn ▸ hdecl.names
    obtain ⟨entry, hmem, values, hname, hentry⟩ := (entries_of_readFields hfields).2 field hf
    rw [Field.lookup_of_noAlias (hdecl.noAlias field hf), hinput] at hentry
    rcases hentry with ⟨_, he, -, hr⟩ | ⟨hn, -⟩
    · cases he
      -- The entry is the only one of its name.
      have hlookup : ((fields.map fun field => (field.1, field.2.1.value)) : Dict FieldInput).lookup
          field.name = some (.json value) := by
        refine Dict.lookup_of_mem (by simpa [Function.comp_def] using hnames) ?_
        refine List.mem_map.mpr ⟨entry, hmem, ?_⟩
        rw [hname, hread values entry.2.1 hr]
        rfl
      simp only [toJsonDict, readingOf, List.lookup_nil, Option.map_none, Option.getD_none]
      rw [Dict.lookup_map_values FieldInput.toJson, List.lookup_append, hlookup]
      rfl
    · cases hn
  · obtain ⟨values, r, hr, hset⟩ :=
      hdecl.toKeepsKeys.lookup_dumpSet hdecl.names h hf (.json value) hinput
    rw [hset, hread values r hr]
    rfl

/-- The dumps of what such a model read of a payload have each item that is no field's. -/
theorem ModelDecl.KeepsPayload.lookup_dump_extra {decl : ModelDecl} (hdecl : decl.KeepsPayload)
    {payload : Dict Json} {p : Parsed} (h : decl.parseInputs (toFieldInputs payload) = .ok p)
    {key : String} (hfield : ∀ field ∈ decl.fields, field.name ≠ key) :
    p.value.dump.lookup key = payload.lookup key ∧ p.dumpSet.lookup key = payload.lookup key := by
  obtain ⟨fields, rewritten, hfields, -, -, rfl⟩ := ModelDecl.parseInputs_eq_ok_iff.mp h
  -- The entries are the fields'.
  have hnone : ∀ (d : Dict FieldInput), (∀ item ∈ d, ∃ entry ∈ fields, entry.1 = item.1) →
      d.lookup key = none := by
    intro d hd
    rw [List.lookup_eq_none_iff]
    intro item hitem
    obtain ⟨entry, hmem, he⟩ := hd item hitem
    rcases (entries_of_readFields hfields).1 entry hmem with hnil | ⟨field, hf, values, hentry⟩
    · cases hnil
    · rw [bne_iff_ne, ← he, hentry.1]
      exact (hfield field hf).symm
  have hkept : (decl.kept (toFieldInputs payload)).lookup key =
      (payload.lookup key).map FieldInput.json := by
    have hk : decl.kept (toFieldInputs payload) = decl.extraItems (toFieldInputs payload) :=
      if_pos hdecl.extra
    rw [hk]
    unfold ModelDecl.extraItems
    rw [Dict.lookup_filter_key fun k => !decl.fields.any fun field =>
      field.usedKey (toFieldInputs payload) == k, if_pos, lookup_toFieldInputs]
    rw [Bool.not_eq_true', List.any_eq_false]
    intro field hf
    rw [Field.usedKey_of_noAlias (hdecl.noAlias field hf)]
    simpa using hfield field hf
  have hlookup : ∀ (d : Dict FieldInput), (∀ item ∈ d, ∃ entry ∈ fields, entry.1 = item.1) →
      (toJsonDict (d ++ decl.kept (toFieldInputs payload))).lookup key = payload.lookup key := by
    intro d hd
    unfold toJsonDict
    rw [Dict.lookup_map_values FieldInput.toJson, List.lookup_append, hnone d hd, hkept]
    cases payload.lookup key <;> rfl
  constructor
  · refine hlookup _ fun item hitem => ?_
    obtain ⟨entry, hmem, rfl⟩ := List.mem_map.mp hitem
    exact ⟨entry, hmem, rfl⟩
  · refine hlookup _ fun item hitem => ?_
    obtain ⟨entry, hmem, rfl⟩ := List.mem_map.mp hitem
    exact ⟨entry, List.mem_of_mem_filter hmem, rfl⟩

/-- The dumps of what such a model read of a payload have each item of the payload. -/
theorem ModelDecl.KeepsPayload.lookup_dump {decl : ModelDecl} (hdecl : decl.KeepsPayload)
    {payload : Dict Json} {p : Parsed} (h : decl.parseInputs (toFieldInputs payload) = .ok p)
    {key : String} {value : Json} (hvalue : payload.lookup key = some value) :
    p.value.dump.lookup key = some value ∧ p.dumpSet.lookup key = some value := by
  by_cases hfield : ∃ field ∈ decl.fields, field.name = key
  · obtain ⟨field, hf, rfl⟩ := hfield
    exact hdecl.lookup_dump_field h hf hvalue
  · have hextra := hdecl.lookup_dump_extra h fun field hf he => hfield ⟨field, hf, he⟩
    rwa [hvalue] at hextra

/-- The dump of the fields that were set has the items of the payload and no others. -/
theorem ModelDecl.KeepsPayload.lookup_dumpSet_eq {decl : ModelDecl} (hdecl : decl.KeepsPayload)
    {payload : Dict Json} {p : Parsed} (h : decl.parseInputs (toFieldInputs payload) = .ok p)
    (key : String) : p.dumpSet.lookup key = payload.lookup key := by
  cases hvalue : payload.lookup key with
  | some value => exact (hdecl.lookup_dump h hvalue).2
  | none =>
    have hcontains := hdecl.toKeepsKeys.contains_dumpSet h key
    unfold Dict.contains at hcontains
    rw [lookup_toFieldInputs, hvalue] at hcontains
    exact Option.isNone_iff_eq_none.mp (by simpa using hcontains)

end Pydantic
