import DbConnection.Connectors

/-!
# Normalisation of the built-in types

The properties of a connection are validated when it is created and again at each update, from the
dump that was stored. `builtin_normalisation_stable_iff` says for which payloads the second and any
later validation gives back what the first one made: for all of the built-in types but S3, whose
`normalize_prefix` strips blanks and then slashes and so may leave blanks, or nothing, behind.
-/

namespace DbConnection

open PyData Pydantic PyText

/-! ## SQL -/

/-- The fields of the SQL models are stable. -/
theorem sqlOptionFields_stable : ∀ field ∈ sqlOptionFields, field.Stable := by
  simp only [sqlOptionFields, List.forall_mem_cons]
  exact ⟨Field.stable_default rfl rfl, Field.stable_default rfl rfl, Field.stable_default rfl rfl,
    Field.stable_default rfl rfl, Field.stable_optional rfl, Field.stable_default rfl rfl,
    fun _ h => absurd h List.not_mem_nil⟩

/-- `SQLProperties` reads its dumps back. -/
theorem sqlProperties_readsBack : sqlProperties.ReadsBack :=
  ModelDecl.readsBack_ofFields (by decide) (by decide) (by decide) sqlFields_readsBack

/-- `MSSQLNamedInstanceProperties` reads its dumps back. -/
theorem mssqlNamedInstanceProperties_readsBack : mssqlNamedInstanceProperties.ReadsBack := by
  refine ModelDecl.readsBack_of_stable (by decide) (by decide) (by decide) (fun _ => rfl) ?_
  show ∀ field ∈ [_, _, _, _] ++ sqlOptionFields, field.Stable
  rw [List.forall_mem_append]
  refine ⟨?_, sqlOptionFields_stable⟩
  simp only [List.forall_mem_cons]
  exact ⟨Field.stable_required rfl, Field.stable_required rfl, Field.stable_required rfl,
    Field.stable_required rfl, fun _ h => absurd h List.not_mem_nil⟩

/-- A dump of `MSSQLTCPProperties` is none of `MSSQLNamedInstanceProperties`. -/
theorem namedInstance_refuses_tcp {payload : Json} {root : Instance}
    (h : mssqlTcpProperties.validate payload = .ok root) (v : Instance) :
    mssqlNamedInstanceProperties.validate (.obj root.dumpJson) ≠ .ok v := by
  have hkeys := ModelDecl.keys_of_validate (by decide) (by decide) h
  have hport : "port" ∈ root.dumpJson.map Prod.fst := by
    rw [hkeys]
    decide
  exact ModelDecl.not_validate_of_key rfl (by decide) hport (by decide) v

/-- A dump of `MSSQLNamedInstanceProperties` is none of `MSSQLTCPProperties`. -/
theorem tcp_refuses_namedInstance {payload : Json} {root : Instance}
    (h : mssqlNamedInstanceProperties.validate payload = .ok root) (v : Instance) :
    mssqlTcpProperties.validate (.obj root.dumpJson) ≠ .ok v := by
  have hkeys := ModelDecl.keys_of_validate (by decide) (by decide) h
  have hinstance : "instance_name" ∈ root.dumpJson.map Prod.fst := by
    rw [hkeys]
    decide
  exact ModelDecl.not_validate_of_key rfl (by decide) hinstance (by decide) v

/-- What `MSSQLProperties` makes of a payload is what its union reads, as the root of the model. -/
theorem mssqlProperties_validate_iff {payload : Json} {v : Instance} :
    mssqlProperties.validate payload = .ok v ↔
      ∃ p, unionParse mssqlMro [mssqlTcpProperties, mssqlNamedInstanceProperties] payload = .ok p ∧
        { p.value with mro := mssqlMro } = v := by
  unfold ModelClass.validate mssqlProperties
  dsimp only
  cases unionParse mssqlMro [mssqlTcpProperties, mssqlNamedInstanceProperties] payload with
  | error e => simp
  | ok p => simp

/-- `MSSQLProperties` reads its dumps back: only the member that made a dump accepts it. -/
theorem mssqlProperties_readsBack : mssqlProperties.ReadsBack := by
  intro payload v h
  obtain ⟨p, hp, rfl⟩ := mssqlProperties_validate_iff.mp h
  rw [mssqlProperties_validate_iff]
  show ∃ q, unionParse _ _ (.obj p.value.dumpJson) = .ok q ∧ _
  rcases exists_of_unionParse hp with hroot | hroot
  · have hv := ModelClass.validate_eq_ok_iff.mpr ⟨p, hroot, rfl⟩
    have hback := mssqlTcpProperties_readsBack payload p.value hv
    obtain ⟨q, hq, hvalue⟩ := ModelClass.validate_eq_ok_iff.mp hback
    exact ⟨q, unionParse_pair mssqlTcpProperties_quiet
      mssqlNamedInstanceProperties_quiet (Or.inl ⟨hq, namedInstance_refuses_tcp hv⟩), by rw [hvalue]⟩
  · have hv := ModelClass.validate_eq_ok_iff.mpr ⟨p, hroot, rfl⟩
    have hback := mssqlNamedInstanceProperties_readsBack payload p.value hv
    obtain ⟨q, hq, hvalue⟩ := ModelClass.validate_eq_ok_iff.mp hback
    exact ⟨q, unionParse_pair mssqlTcpProperties_quiet
      mssqlNamedInstanceProperties_quiet (Or.inr ⟨hq, tcp_refuses_namedInstance hv⟩), by rw [hvalue]⟩

/-! ## Kafka -/

/-- The servers stay a list of texts. -/
theorem bootstrapServers_stable :
    Field.Stable
      { Field.required "bootstrap_servers" .strList with before := normalizeBootstrapServers } := by
  refine Field.stable_before rfl ?_ fun _ hd => by cases hd
  intro value v u _ hread
  -- The type only accepts a list, which the validator before it leaves as it is.
  cases v with
  | arr items =>
    simp only [FieldType.readJson] at hread
    split at hread
    · cases hread
      rfl
    · cases hread
  | _ => cases hread

/-- `KafkaProperties` reads its dumps back. -/
theorem kafkaProperties_readsBack : kafkaProperties.ReadsBack := by
  refine ModelDecl.readsBack_of_stable (by decide) (by decide) (by decide) (fun _ => rfl) ?_
  show ∀ field ∈ [_, _, _, _, _, _, _], Field.Stable field
  simp only [List.forall_mem_cons]
  exact ⟨bootstrapServers_stable, Field.stable_default rfl rfl, Field.stable_optional rfl,
    Field.stable_optional rfl, Field.stable_optional rfl, Field.stable_default rfl rfl,
    Field.stable_default rfl rfl, fun _ h => absurd h List.not_mem_nil⟩

/-! ## S3 -/

/-- A prefix that `normalize_prefix` leaves as it is after normalising it: blanks around slashes
around a text that begins and ends with neither. -/
def PrefixWrapped (s : String) : Prop := Wrapped isSpace (· == '/') s

/-- A value that `normalize_prefix` made stays as it is exactly when it was made of no text or of a
wrapped one. -/
theorem normalizePrefix_stable_iff {value w : Json} (h : normalizePrefix value = .ok w) :
    normalizePrefix w = .ok w ↔ ∀ s, value = .str s → s ≠ "" → PrefixWrapped s := by
  have hdisjoint : ∀ c : Char, (c == '/') = true → isSpace c = false := by
    intro c hc
    rw [beq_iff_eq.mp hc]
    decide
  by_cases htruthy : value.truthy = true
  · cases value with
    | str s =>
      have hne : s ≠ "" := by simpa [Json.truthy] using htruthy
      have hw : w = .str (stripBy (· == '/') (strip s)) := by
        simpa [normalizePrefix, htruthy, eq_comm] using h
      have hagain : normalizePrefix w = .ok w ↔
          stripBy (· == '/') (strip s) ≠ "" ∧
            strip (stripBy (· == '/') (strip s)) = stripBy (· == '/') (strip s) := by
        rw [hw]
        set r := stripBy (· == '/') (strip s) with hr
        have hstripped : stripBy (· == '/') r = r := stripBy_stripBy _ _
        by_cases hempty : r = ""
        · simp [normalizePrefix, hempty, Json.truthy]
        · have hrt : (Json.str r).truthy = true := by simpa [Json.truthy] using hempty
          simp only [normalizePrefix, hrt, Bool.not_true, Bool.false_eq_true, if_false,
            Except.ok.injEq, Json.str.injEq]
          constructor
          · exact fun hsame => ⟨hempty, strip_eq_of_stripBy_strip hsame⟩
          · exact fun ⟨_, hsame⟩ => by rw [hsame, hstripped]
      rw [hagain]
      unfold strip PrefixWrapped
      rw [stripBy_comp_trimmed_iff hdisjoint]
      constructor
      · intro hwrapped s' hs' _
        rwa [← Json.str.inj hs']
      · exact fun hall => hall s rfl hne
    | _ => simp [normalizePrefix, htruthy] at h
  · have hfalse : value.truthy = false := by simpa using htruthy
    have hw : w = .null := by simpa [normalizePrefix, hfalse, eq_comm] using h
    rw [hw]
    refine iff_of_true rfl ?_
    intro s hs hne
    rw [hs] at htruthy
    exact absurd (by simpa [Json.truthy] using hne) htruthy

/-- The field `prefix`. -/
def prefixField : Field := { Field.optional "prefix" .str with before := normalizePrefix }

/-- What `normalize_prefix` makes is `None` or a text. -/
theorem nullableStr_of_normalizePrefix {value w : Json} (h : normalizePrefix value = .ok w) :
    (FieldType.nullable .str).readJson w = .ok (.json w) := by
  unfold normalizePrefix at h
  split at h
  · cases h
    rfl
  · split at h
    · cases h
      rfl
    · cases h

/-- The field has what `normalize_prefix` makes of what it is given. -/
theorem prefixField_reads_iff {soFar : Dict Json} {given : Option Json} {w : Json} :
    prefixField.Reads soFar given w ↔ normalizePrefix (given.getD .null) = .ok w := by
  cases given with
  | none =>
    show some Json.null = some w ↔ Except.ok Json.null = Except.ok w
    rw [Option.some.injEq, Except.ok.injEq]
  | some value =>
    rw [Field.reads_some_iff rfl, Option.getD_some]
    constructor
    · rintro ⟨v, u, hbefore, hread, hafter⟩
      have hbefore : normalizePrefix value = .ok v := hbefore
      have hsame := (nullableStr_of_normalizePrefix hbefore).symm.trans hread
      cases hafter
      cases hsame
      exact hbefore
    · intro h
      exact ⟨w, w, h, nullableStr_of_normalizePrefix h, rfl⟩

/-- The bucket stays as it is. -/
theorem bucket_stable (host : Host) :
    Field.Stable { Field.required "bucket" .str with before := normalizeBucket host } := by
  refine Field.stable_before rfl ?_ fun _ hd => by cases hd
  intro value v u hbefore hread
  unfold normalizeBucket at hbefore
  split at hbefore
  · cases hbefore
  · rename_i hne
    cases hbefore
    cases hread
    have hsame : strip (strip (pyStr host value)) = strip (pyStr host value) := stripBy_stripBy _ _
    have htext : pyStr host (.str (strip (pyStr host value))) = strip (pyStr host value) := rfl
    unfold normalizeBucket
    rw [htext, hsame, if_neg hne]

/-- The fields of `S3Properties` but the prefix. -/
def s3OtherFields (host : Host) : List Field :=
  [{ Field.required "bucket" .str with before := normalizeBucket host },
    Field.optional "region_name" .str,
    Field.optional "endpoint_url" .str,
    .of "use_ssl" .bool (some (.bool true)),
    .of "verify" .bool (some (.bool true)),
    .of "path_style" .bool (some (.bool false)),
    Field.optional "signature_version" .str]

/-- They are stable. -/
theorem s3OtherFields_stable (host : Host) : ∀ field ∈ s3OtherFields host, field.Stable := by
  simp only [s3OtherFields, List.forall_mem_cons]
  exact ⟨bucket_stable host, Field.stable_optional rfl, Field.stable_optional rfl,
    Field.stable_default rfl rfl, Field.stable_default rfl rfl, Field.stable_default rfl rfl,
    Field.stable_optional rfl, fun _ h => absurd h List.not_mem_nil⟩

/-- `S3Properties` as a declaration, with the prefix last. -/
def s3Decl (host : Host) : ModelDecl :=
  packageModel "connectors.s3" "S3Properties" (s3OtherFields host ++ [prefixField])

theorem s3Properties_eq (host : Host) : s3Properties host = .ofDecl (s3Decl host) := rfl

/-- `S3Properties` reads the dump of an instance back exactly when its payload had no prefix, or a
wrapped one. -/
theorem s3Properties_readsBack_iff (host : Host) {items : Dict Json} {v : Instance}
    (h : (s3Properties host).validate (.obj items) = .ok v) :
    (s3Properties host).validate (.obj v.dumpJson) = .ok v ↔
      ∀ s, items.lookup "prefix" = some (.str s) → s ≠ "" → PrefixWrapped s := by
  have hextra : (s3Decl host).extra ≠ .allow := by
    show Extra.ignore ≠ .allow
    decide
  have hnames : ((s3Decl host).fields.map Field.name).Nodup := by
    show ["bucket", "region_name", "endpoint_url", "use_ssl", "verify", "path_style",
      "signature_version", "prefix"].Nodup
    decide
  have halias : NoAliasIsName (s3Decl host).fields := of_decide_eq_true rfl
  have hmem : prefixField ∈ (s3Decl host).fields := List.mem_append_right _ (List.mem_singleton_self _)
  have hfields : ∀ field ∈ (s3Decl host).fields, field = prefixField ∨ field.Stable := by
    show ∀ field ∈ s3OtherFields host ++ [prefixField], _
    rw [List.forall_mem_append, List.forall_mem_singleton]
    exact ⟨fun field hf => Or.inr (s3OtherFields_stable host field hf), Or.inl rfl⟩
  rw [s3Properties_eq] at h ⊢
  obtain ⟨w, hw, hread⟩ := ModelDecl.reads_of_validate hextra hnames (fun _ => rfl) h hmem
  have hgiven : prefixField.given items = items.lookup "prefix" := rfl
  rw [prefixField_reads_iff, hgiven] at hread
  have hstable : normalizePrefix w = .ok w ↔
      ∀ s, items.lookup "prefix" = some (.str s) → s ≠ "" → PrefixWrapped s := by
    rw [normalizePrefix_stable_iff hread]
    cases items.lookup "prefix" with
    | none => simp
    | some value => simp
  rw [← (ModelDecl.instance_of_validate h).2, ModelDecl.validate_dump_iff hextra hnames halias
    (fun _ => rfl) hmem hfields h hw, prefixField_reads_iff, ← hstable]
  rfl

/-! ## FTP and SFTP -/

/-- A port that `validate_port` accepts. -/
def IsPort (value : Json) : Prop := ∃ n : Int, value = .int n ∧ 1 ≤ n ∧ n ≤ 65535

/-- The field `port`, with its default. -/
def portField (default : Int) : Field :=
  { Field.of "port" .int (some (.int default)) with after := validatePort }

/-- The field reads ports as they are. -/
theorem portField_reads_of_isPort {default : Int} {soFar : Dict Json} {w : Json} (h : IsPort w) :
    (portField default).Reads soFar (some w) w := by
  obtain ⟨n, rfl, hn⟩ := h
  refine (Field.reads_some_iff rfl).mpr ⟨.int n, .int n, rfl, rfl, ?_⟩
  exact if_pos hn

/-- The field has a port. -/
theorem portField_isPort {default : Int} (hdefault : 1 ≤ default ∧ default ≤ 65535)
    {soFar : Dict Json} {given : Option Json} {w : Json}
    (h : (portField default).Reads soFar given w) : IsPort w := by
  cases given with
  | none => exact ⟨default, (Option.some.inj h).symm, hdefault⟩
  | some value =>
    obtain ⟨v, u, -, hread, hafter⟩ := (Field.reads_some_iff rfl).mp h
    have hafter : validatePort soFar u = .ok w := hafter
    have hint : ∃ n, u = .int n := by
      have hread : FieldType.int.readJson v = .ok (.json u) := hread
      simp only [FieldType.readJson] at hread
      split at hread
      · cases hread
        exact ⟨_, rfl⟩
      · cases hread
    obtain ⟨n, rfl⟩ := hint
    simp only [validatePort] at hafter
    split at hafter
    · rename_i hn
      cases hafter
      exact ⟨n, rfl, hn⟩
    · cases hafter

/-- `normalize_port_for_mode` gives at most the port, which is one, and nothing on what it gave. -/
theorem normalizePortForMode_spec {values rewritten : Dict Json}
    (h : normalizePortForMode values = .ok rewritten) :
    (rewritten = [] ∨ ∃ w, rewritten = [("port", w)] ∧ IsPort w) ∧
      normalizePortForMode (rewrite rewritten values) = .ok [] := by
  have hmode : ∀ w, (rewrite [("port", w)] values).lookup "mode" = values.lookup "mode" := by
    intro w
    rw [lookup_rewrite]
    exact Option.map_id'
  have hport : ∀ w, (rewrite [("port", w)] values).lookup "port" =
      (values.lookup "port").map fun _ => w := fun w => lookup_rewrite _ _ _
  unfold normalizePortForMode at h
  split at h
  · rename_i hm hp
    cases h
    refine ⟨Or.inr ⟨_, rfl, 990, rfl, by decide⟩, ?_⟩
    unfold normalizePortForMode
    rw [hmode, hport, hm, hp]
    rfl
  · rename_i hm hp
    cases h
    refine ⟨Or.inr ⟨_, rfl, 21, rfl, by decide⟩, ?_⟩
    unfold normalizePortForMode
    rw [hmode, hport, hm, hp]
    rfl
  · rename_i h1 h2
    cases h
    refine ⟨Or.inl rfl, ?_⟩
    rw [rewrite_nil]
    unfold normalizePortForMode
    split
    · rename_i hm hp
      exact absurd hp (h1 hm)
    · rename_i hm hp
      exact absurd hp (h2 hm)
    · rfl

/-- The field `anonymous`. -/
def anonymousField : Field :=
  { Field.of "anonymous" .bool (some (.bool false)) with after := validateAnonymous }

/-- `validate_anonymous` leaves what it accepts. -/
theorem anonymous_stable : anonymousField.Stable := by
  refine Field.stable_after rfl ?_ ?_
  · intro soFar u w hread hafter
    have hsame : u = w := by
      unfold validateAnonymous at hafter
      split at hafter
      · cases hafter
      · exact Except.ok.inj hafter
    rw [← hsame] at hafter ⊢
    exact ⟨hread, hafter⟩
  · intro soFar d hd
    cases hd
    exact ⟨rfl, rfl⟩

/-- The field still reads its value after a validator of the whole model rewrote the record. -/
def KeepsValue (rewritten : Dict Json) (field : Field) : Prop :=
  ∀ soFar given w, field.Reads soFar given w →
    field.Reads (rewrite rewritten soFar) (some ((rewritten.lookup field.name).getD w))
      ((rewritten.lookup field.name).getD w)

section RewrittenPort

variable {rewritten : Dict Json}
  (hrewritten : rewritten = [] ∨ ∃ w, rewritten = [("port", w)] ∧ IsPort w)
include hrewritten

/-- No other key than the port is rewritten. -/
theorem lookup_rewritten {key : String} (hkey : key ≠ "port") : rewritten.lookup key = none := by
  rcases hrewritten with rfl | ⟨w, rfl, -⟩
  · rfl
  · exact lookup_cons_of_ne w hkey

/-- A field without validators keeps its value. -/
theorem keepsValue_of_plain {field : Field} (hstable : field.Stable) (hplain : field.NoValidators)
    (hname : field.name ≠ "port") : KeepsValue rewritten field := by
  intro soFar given w h
  rw [lookup_rewritten hrewritten hname, Option.getD_none]
  exact hplain.reads_congr (hstable soFar given w h)

/-- The port keeps its value, or has the one that was given to it. -/
theorem keepsValue_port {default : Int} (hdefault : 1 ≤ default ∧ default ≤ 65535) :
    KeepsValue rewritten (portField default) := by
  intro soFar given w h
  rcases hrewritten with rfl | ⟨port, rfl, hport⟩
  · exact portField_reads_of_isPort (portField_isPort hdefault h)
  · exact portField_reads_of_isPort hport

/-- `anonymous` keeps its value: its validator looks at the user's name, which is not rewritten. -/
theorem keepsValue_anonymous : KeepsValue rewritten anonymousField := by
  intro soFar given w h
  have hname : rewritten.lookup "anonymous" = none := lookup_rewritten hrewritten (by decide)
  have huser : (rewrite rewritten soFar).lookup "username" = soFar.lookup "username" := by
    rw [lookup_rewrite, lookup_rewritten hrewritten (by decide)]
    exact Option.map_id'
  obtain ⟨v, u, hbefore, hread, hafter⟩ :=
    (Field.reads_some_iff rfl).mp (anonymous_stable soFar given w h)
  have hafter : validateAnonymous soFar u = .ok w := hafter
  show anonymousField.Reads (rewrite rewritten soFar) (some ((rewritten.lookup "anonymous").getD w))
    ((rewritten.lookup "anonymous").getD w)
  rw [hname, Option.getD_none]
  refine (Field.reads_some_iff rfl).mpr ⟨v, u, hbefore, hread, ?_⟩
  show validateAnonymous (rewrite rewritten soFar) u = .ok w
  unfold validateAnonymous at hafter ⊢
  rwa [huser]

end RewrittenPort

/-- The fields of `FTPProperties` keep their values when the port is rewritten. -/
theorem ftpFields_keepValues {rewritten : Dict Json}
    (hrewritten : rewritten = [] ∨ ∃ w, rewritten = [("port", w)] ∧ IsPort w) :
    ∀ field ∈ [.required "host" .str, portField 21,
      .of "mode" (.oneOf ["ftp", "ftps_implicit", "ftps_explicit"]) (some (.str "ftp")),
      Field.optional "username" .str,
      anonymousField,
      .of "encoding" .str (some (.str "utf-8")),
      Field.optional "initial_directory" .str,
      Field.optional "ssl_context" .dict,
      .of "verify_ssl" .bool (some (.bool true)),
      Field.optional "certfile" .str,
      Field.optional "keyfile" .str], KeepsValue rewritten field := by
  have hplain : ∀ (name : String) (type : FieldType) (default : Option Json),
      (Field.of name type default).Stable → name ≠ "port" →
        KeepsValue rewritten (Field.of name type default) := fun name type default hs hn =>
    keepsValue_of_plain hrewritten hs (Field.noValidators name type default) hn
  simp only [List.forall_mem_cons]
  exact ⟨hplain _ _ _ (Field.stable_required rfl) (by decide),
    keepsValue_port hrewritten (by decide),
    hplain _ _ _ (Field.stable_default rfl rfl) (by decide),
    hplain _ _ _ (Field.stable_optional rfl) (by decide),
    keepsValue_anonymous hrewritten,
    hplain _ _ _ (Field.stable_default rfl rfl) (by decide),
    hplain _ _ _ (Field.stable_optional rfl) (by decide),
    hplain _ _ _ (Field.stable_optional rfl) (by decide),
    hplain _ _ _ (Field.stable_default rfl rfl) (by decide),
    hplain _ _ _ (Field.stable_optional rfl) (by decide),
    hplain _ _ _ (Field.stable_optional rfl) (by decide), fun _ h => absurd h List.not_mem_nil⟩

/-- `FTPProperties` reads its dumps back, with the port that belongs to the mode. -/
theorem ftpProperties_readsBack : ftpProperties.ReadsBack := by
  intro payload v h
  obtain ⟨items, rfl⟩ := ModelDecl.exists_obj_of_validate h
  obtain ⟨-, out, rewritten, hvalues, hout, rfl⟩ :=
    (ModelDecl.validate_iff (by decide) (by decide)).mp h
  obtain ⟨hrewritten, hagain⟩ := normalizePortForMode_spec hout
  refine ModelDecl.validate_record (by decide) (by decide) (by decide)
    ((map_fst_rewrite rewritten out).trans hvalues.keys) hagain ?_
  intro field hf w hw
  have hkeeps := ftpFields_keepValues hrewritten field hf
  obtain ⟨w', hw', hr⟩ := hvalues.reads field hf
  have hw : (rewrite rewritten out).lookup field.name = some w := hw
  rw [lookup_rewrite, hw', Option.map_some, Option.some.injEq] at hw
  show field.Reads (before (rewrite rewritten out) field.name) (some w) w
  rw [before_rewrite, ← hw]
  exact hkeeps _ _ _ hr

/-- `validate_private_key_path` makes `None` or the path of a file, without blanks around it. -/
theorem privateKeyPath_stable (host : Host) :
    Field.Stable
      { Field.optional "private_key_path" .str with after := validatePrivateKeyPath host } := by
  refine Field.stable_after rfl ?_ ?_
  · intro soFar u w hread hafter
    unfold validatePrivateKeyPath at hafter
    split at hafter
    · rename_i s
      split at hafter
      · cases hafter
        exact ⟨rfl, rfl⟩
      · rename_i hne
        cases hexists : host.pathExists (strip s) with
        | error exc => simp [hexists] at hafter
        | ok found =>
          rw [hexists] at hafter
          cases found with
          | false => cases hafter
          | true =>
            dsimp only at hafter
            split at hafter
            · rename_i hfile
              cases hafter
              refine ⟨rfl, ?_⟩
              have hsame : strip (strip s) = strip s := stripBy_stripBy _ _
              unfold validatePrivateKeyPath
              dsimp only
              rw [hsame, if_neg hne, hexists]
              exact if_pos hfile
            · cases hafter
    · cases hafter
      exact ⟨rfl, rfl⟩
  · intro soFar d hd
    cases hd
    exact ⟨rfl, rfl⟩

/-- `SFTPProperties` reads its dumps back. -/
theorem sftpProperties_readsBack (host : Host) : (sftpProperties host).ReadsBack := by
  refine ModelDecl.readsBack_of_stable (of_decide_eq_true rfl) (of_decide_eq_true rfl)
    (of_decide_eq_true rfl) (fun _ => rfl) ?_
  show ∀ field ∈ [.required "host" .str, portField 22, .required "username" .str,
    { Field.optional "private_key_path" .str with after := validatePrivateKeyPath host },
    Field.optional "initial_directory" .str, .of "allow_agent" .bool (some (.bool false))],
    Field.Stable field
  simp only [List.forall_mem_cons]
  refine ⟨Field.stable_required rfl, ?_, Field.stable_required rfl, privateKeyPath_stable host,
    Field.stable_optional rfl, Field.stable_default rfl rfl, fun _ h => absurd h List.not_mem_nil⟩
  intro soFar given w h
  exact portField_reads_of_isPort (portField_isPort (by decide) h)

/-! ## All types -/

/-- What `n` validations make of an instance, each of the dump that the one before it stored. -/
def revalidated (model : ModelClass) (v : Instance) : Nat → Except ModelError Instance
  | 0 => .ok v
  | n + 1 => do
    let stored ← revalidated model v n
    model.validate (.obj stored.dumpJson)

/-- An instance stays the same in all validations exactly when it does in one. -/
theorem revalidated_eq_iff (model : ModelClass) (v : Instance) :
    (∀ n, revalidated model v n = .ok v) ↔ model.validate (.obj v.dumpJson) = .ok v := by
  constructor
  · exact fun hall => hall 1
  · intro hback n
    induction n with
    | zero => rfl
    | succ n ih =>
      unfold revalidated
      rw [ih]
      exact hback

/-- Whatever properties a built-in type accepts, every later validation of what is stored gives the
same properties, unless the type is S3 and the prefix is not wrapped. -/
theorem builtin_normalisation_stable_iff (host : Host) {spec : TypeSpec}
    (hspec : spec ∈ defaultTypes host) {payload : Json} {v : Instance}
    (h : spec.propertiesModel.validate payload = .ok v) :
    (∀ n, revalidated spec.propertiesModel v n = .ok v) ↔
      (spec.name = "s3" → ∀ items s, payload = .obj items →
        items.lookup "prefix" = some (.str s) → s ≠ "" → PrefixWrapped s) := by
  rw [revalidated_eq_iff]
  have hother : ∀ other : TypeSpec, other.name ≠ "s3" → other.propertiesModel.ReadsBack →
      other.propertiesModel.validate payload = .ok v →
        (other.propertiesModel.validate (.obj v.dumpJson) = .ok v ↔
          (other.name = "s3" → ∀ items s, payload = .obj items →
            items.lookup "prefix" = some (.str s) → s ≠ "" → PrefixWrapped s)) :=
    fun other hname hback hv => iff_of_true (hback payload v hv) fun hs3 => absurd hs3 hname
  simp only [defaultTypes, List.mem_cons, List.not_mem_nil, or_false] at hspec
  rcases hspec with rfl | rfl | rfl | rfl | rfl | rfl | rfl | rfl | rfl | rfl
  · exact hother _ (by decide) sqlProperties_readsBack h
  · exact hother _ (by decide) sqlProperties_readsBack h
  · exact hother _ (by decide) sqlProperties_readsBack h
  · exact hother _ (by decide) mssqlProperties_readsBack h
  · exact hother _ (by decide) sqlProperties_readsBack h
  · exact hother _ (by decide) sqlProperties_readsBack h
  · exact hother _ (by decide) kafkaProperties_readsBack h
  · have hs3 : (s3Properties host).validate payload = .ok v := h
    obtain ⟨items, rfl⟩ := ModelDecl.exists_obj_of_validate hs3
    show (s3Properties host).validate _ = _ ↔ _
    rw [s3Properties_readsBack_iff host hs3]
    constructor
    · intro hall _ items' s hitems hs
      cases hitems
      exact hall s hs
    · exact fun hall s hs => hall rfl items s rfl hs
  · exact hother _ (by decide) ftpProperties_readsBack h
  · exact hother _ (show "sftp" ≠ "s3" by decide) (sftpProperties_readsBack host) h

/-- The type of S3 connections. -/
def s3Type : TypeSpec := builtinType "s3" "file" (s3Properties emptyHost) s3Secrets "S3Connector"

/-- `builtin_normalisation_stable_iff` for a bucket with a prefix. -/
theorem builtin_normalisation_stable_iff_daily :
    ∃ v, s3Type.propertiesModel.validate
        (.obj [("bucket", .str "backups"), ("prefix", .str "daily")]) = .ok v ∧
      ((∀ n, revalidated s3Type.propertiesModel v n = .ok v) ↔
        (s3Type.name = "s3" → ∀ items s,
          Json.obj [("bucket", .str "backups"), ("prefix", .str "daily")] = .obj items →
            items.lookup "prefix" = some (.str s) → s ≠ "" → PrefixWrapped s)) :=
  ⟨_, rfl, builtin_normalisation_stable_iff emptyHost
    (by simp [defaultTypes, s3Type]) (rfl : s3Type.propertiesModel.validate _ = .ok _)⟩

/-- The prefix `/ a` is stored as ` a` with its blank, and as `a` after the next validation. -/
theorem s3_prefix_drifts :
    ∃ v v', s3Type ∈ defaultTypes emptyHost ∧
      s3Type.propertiesModel.validate
        (.obj [("bucket", .str "backups"), ("prefix", .str "/ a")]) = .ok v ∧
      v.dump.lookup "prefix" = some (.str " a") ∧
      s3Type.propertiesModel.validate (.obj v.dumpJson) = .ok v' ∧
      v'.dump.lookup "prefix" = some (.str "a") ∧
      revalidated s3Type.propertiesModel v 1 ≠ .ok v := by
  refine ⟨_, _, by simp [defaultTypes, s3Type], rfl, by decide, rfl, by decide, by decide⟩

end DbConnection
