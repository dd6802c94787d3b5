import DbConnection.Compat.LegacyRecords

/-!
# Legacy properties that are read again

Whether the legacy model of a type reads the dump of an instance that it made as that instance. Those of
SQL, Kafka and SFTP do. `normalize_prefix` of S3 strips slashes before blanks, and may leave slashes
that it strips the next time; and `validate_mode_port` of FTP only runs where the mode is given, as it is
in a dump, and then sets the port of plain FTP on 990 (`Rereadable`).
-/

namespace DbConnection.Compat

open PyData Pydantic PyText

/-- The type's model reads the dump with these values as they are. -/
def Rereadable (type : ConnectionType) (values : Dict Json) : Prop :=
  match type with
  | .s3 => ∀ s, values.lookup "prefix" = some (.str s) → Trimmed (· == '/') s.toList
  | .ftp => ¬ (values.lookup "mode" = some (.str "ftp") ∧ values.lookup "port" = some (.int 990))
  | _ => True

/-! ## SQL and Kafka -/

/-- A bounded text stays as it is. -/
theorem stable_boundedStr (name : String) (limit : Nat) : (boundedStr name limit).Stable := by
  refine Field.stable_after rfl ?_ fun _ _ hd => by cases hd
  intro soFar u w hread hw
  obtain rfl := eq_of_maxLength hw
  exact ⟨hread, hw⟩

/-- `SqlConnectionProperties` reads its dumps back. -/
theorem sqlConnectionProperties_readsBack : sqlConnectionProperties.ReadsBack := by
  have hpassword :
      Field.Stable { Field.optional "password" .str with after := maxLength 2048 } := by
    refine Field.stable_after rfl ?_ ?_
    · intro soFar u w hread hw
      obtain rfl := eq_of_maxLength hw
      exact ⟨hread, hw⟩
    · intro soFar d hd
      cases hd
      exact ⟨rfl, rfl⟩
  refine ModelDecl.readsBack_of_stable (by decide) (by decide) (by decide) (fun _ => rfl) ?_
  show ∀ field ∈ [_, _, _, _, _, _, _, _, _, _, _, _], Field.Stable field
  simp only [List.forall_mem_cons]
  exact ⟨stable_boundedStr _ _, Field.stable_required rfl, stable_boundedStr _ _, hpassword,
    stable_boundedStr _ _, Field.stable_default rfl rfl, Field.stable_default rfl rfl,
    Field.stable_default rfl rfl, Field.stable_default rfl rfl, Field.stable_optional rfl,
    Field.stable_default rfl rfl, Field.stable_optional rfl, fun _ h => absurd h List.not_mem_nil⟩

/-- `KafkaConnectionProperties` reads its dumps back: the servers are a list by then. -/
theorem kafkaConnectionProperties_readsBack : kafkaConnectionProperties.ReadsBack := by
  have hservers :
      Field.Stable { Field.required "bootstrap_servers" .strList with before := ensureList } := by
    refine Field.stable_before rfl ?_ fun _ hd => by cases hd
    intro value v u _ hread
    cases v with
    | arr items =>
      simp only [FieldType.readJson] at hread
      split at hread
      · cases hread
        rfl
      · cases hread
    | _ => cases hread
  refine ModelDecl.readsBack_of_stable (by decide) (by decide) (by decide) (fun _ => rfl) ?_
  show ∀ field ∈ [_, _, _, _, _, _, _], Field.Stable field
  simp only [List.forall_mem_cons]
  exact ⟨hservers, Field.stable_default rfl rfl, Field.stable_optional rfl,
    Field.stable_optional rfl, Field.stable_optional rfl, Field.stable_default rfl rfl,
    Field.stable_default rfl rfl, fun _ h => absurd h List.not_mem_nil⟩

/-! ## S3 -/

/-- The text of a text. -/
theorem textOrEmpty_str (host : Host) (s : String) : textOrEmpty host (.str s) = s := rfl

/-- What `normalize_bucket` makes is a text that it leaves as it is. -/
theorem normalizeBucket_spec {host : Host} {value v : Json} (h : normalizeBucket host value = .ok v) :
    ∃ s, v = .str s ∧ normalizeBucket host (.str s) = .ok (.str s) := by
  unfold normalizeBucket at h
  dsimp only at h
  split at h
  · cases h
  · rename_i hne
    refine ⟨_, (Except.ok.inj h).symm, ?_⟩
    unfold normalizeBucket
    dsimp only
    have hsame : strip (strip (textOrEmpty host value)) = strip (textOrEmpty host value) :=
      stripBy_stripBy _ _
    rw [textOrEmpty_str, hsame]
    exact if_neg hne

/-- The bucket stays as it is. -/
theorem stable_legacyBucket (host : Host) :
    Field.Stable { boundedStr "bucket" 255 with before := normalizeBucket host } := by
  refine Field.stable_of rfl ?_ fun _ _ hd => by cases hd
  intro soFar value v u w hbefore hread hafter
  have hafter : maxLength 255 soFar u = .ok w := hafter
  obtain rfl := eq_of_maxLength hafter
  dsimp only at hbefore
  obtain ⟨s, rfl, hs⟩ := normalizeBucket_spec hbefore
  have hread : FieldType.str.readJson (.str s) = .ok (.json w) := hread
  cases hread
  dsimp only
  exact ⟨hs, rfl, hafter⟩

/-- The endpoint stays as it is. -/
theorem stable_endpoint (host : Host) :
    Field.Stable { Field.optional "endpoint_url" .str with before := normalizeEndpoint host } := by
  refine Field.stable_before rfl ?_ fun d hd => by cases hd; exact ⟨rfl, rfl⟩
  intro value v u hbefore hread
  unfold normalizeEndpoint at hbefore
  dsimp only at hbefore
  split at hbefore
  · cases hbefore
    cases hread
    rfl
  · rename_i hne
    cases hbefore
    cases hread
    have hsame : strip (strip (textOrEmpty host value)) = strip (textOrEmpty host value) :=
      stripBy_stripBy _ _
    unfold normalizeEndpoint
    rw [textOrEmpty_str, hsame]
    exact if_neg hne

/-- The legacy `normalize_prefix` leaves a text without blanks around it exactly when there are no
slashes around it either. -/
theorem legacyPrefix_eq_iff {host : Host} {s : String} (hs : strip s = s) (hne : s ≠ "") :
    normalizePrefix host (.str s) = .ok (.str s) ↔ Trimmed (· == '/') s.toList := by
  have hstripped : normalizePrefix host (.str s) = .ok (.str s) ↔
      strip (stripBy (· == '/') s) = s := by
    unfold normalizePrefix
    dsimp only
    rw [textOrEmpty_str]
    split
    · rename_i hempty
      rw [hempty]
      exact iff_of_false (fun h => by cases h) fun h => hne h.symm
    · rw [Except.ok.injEq, Json.str.injEq]
  rw [hstripped, ← stripBy_eq_self_iff]
  constructor
  · exact strip_eq_of_stripBy_strip
  · intro hsame
    rw [hsame, hs]

/-- `S3ConnectionProperties` reads a dump back exactly when the prefix neither begins nor ends with a
slash. -/
theorem s3ConnectionProperties_readsBack_iff {host : Host} {payload : Json} {v : Instance}
    (hv : (s3ConnectionProperties host).validate payload = .ok v) :
    (s3ConnectionProperties host).validate (.obj v.dump) = .ok v ↔ Rereadable .s3 v.dump := by
  have hextra : Extra.ignore ≠ .allow := by decide
  have halias : NoAliasIsName (s3LegacyFields host) := of_decide_eq_true rfl
  have hmem : legacyPrefixField host ∈ s3LegacyFields host := List.mem_of_getElem? (i := 9) rfl
  have hfields : ∀ field ∈ s3LegacyFields host,
      field = legacyPrefixField host ∨ field.Stable := by
    simp only [s3LegacyFields, List.forall_mem_cons]
    exact ⟨Or.inr (stable_legacyBucket host), Or.inr (Field.stable_optional rfl),
      Or.inr (stable_endpoint host), Or.inr (stable_boundedStr _ _),
      Or.inr (stable_boundedStr _ _), Or.inr (Field.stable_optional rfl),
      Or.inr (Field.stable_default rfl rfl), Or.inr (Field.stable_default rfl rfl),
      Or.inr (Field.stable_optional rfl), Or.inl trivial, fun _ h => absurd h List.not_mem_nil⟩
  obtain ⟨s, hs, hstrip, hne, hlength⟩ := s3_prefix hv
  have hready : Rereadable .s3 v.dump ↔ normalizePrefix host (.str s) = .ok (.str s) := by
    rw [legacyPrefix_eq_iff hstrip hne]
    constructor
    · exact fun h => h s hs
    · intro h t ht
      rw [hs] at ht
      cases ht
      exact h
  have hback := ModelDecl.validate_dump_iff hextra (s3LegacyFields_nodup host) halias
    (fun _ => rfl) hmem hfields hv hs
  refine hback.trans (Iff.trans ?_ hready.symm)
  have hdump : (legacyPrefixField host).Reads (before v.dump "prefix") (some (.str s)) (.str s) ↔
      normalizePrefix host (.str s) = .ok (.str s) := by
    constructor
    · intro hread
      obtain ⟨value, t, hvalue, ht, hsame, -⟩ := text_of_reads hread
      cases hvalue
      cases hsame
      exact ht
    · intro h
      have hbounded : maxLength 512 (before v.dump "prefix") (.str s) = .ok (.str s) := by
        unfold maxLength
        exact if_pos hlength
      refine (Field.reads_some_iff rfl).mpr ⟨.str s, .str s, ?_, rfl, hbounded⟩
      dsimp only [legacyPrefixField]
      exact h
  exact hdump

/-! ## FTP -/

/-- Setting the port rewrites the record. -/
theorem setPort_eq_rewrite (port : Option Int) (values : Dict Json) :
    setPort port values = rewrite ((port.map fun n => ("port", Json.int n)).toList) values := by
  unfold setPort rewrite
  refine List.map_congr_left fun item _ => Prod.ext rfl ?_
  cases port with
  | none => simp
  | some n =>
    by_cases hname : item.1 = "port"
    · simp [hname]
    · have hne : (item.1 == "port") = false := beq_eq_false_iff_ne.mpr hname
      simp [List.lookup_cons, hname, hne]

/-- What `validate_mode_port` sets is nothing or a port. -/
theorem setPort_rewritten {payload : Json} {values : Dict Json} :
    ((validateModePort payload values).map fun n => ("port", Json.int n)).toList = [] ∨
      ∃ w, ((validateModePort payload values).map fun n => ("port", Json.int n)).toList =
        [("port", w)] ∧ IsPort w := by
  cases hset : validateModePort payload values with
  | none => exact Or.inl rfl
  | some n =>
    refine Or.inr ⟨.int n, rfl, n, rfl, ?_⟩
    rcases validateModePort_isPort hset with rfl | rfl <;> decide

/-- The legacy fields of FTP keep their values when the port is set. -/
theorem ftpLegacyFields_keepValues {rewritten : Dict Json}
    (hrewritten : rewritten = [] ∨ ∃ w, rewritten = [("port", w)] ∧ IsPort w) :
    ∀ field ∈ ftpLegacyFields, KeepsValue rewritten field := by
  have hplain : ∀ (name : String) (type : FieldType) (default : Option Json),
      (Field.of name type default).Stable → name ≠ "port" →
        KeepsValue rewritten (Field.of name type default) := fun name type default hs hn =>
    keepsValue_of_plain hrewritten hs (Field.noValidators name type default) hn
  simp only [ftpLegacyFields, List.forall_mem_cons]
  exact ⟨hplain _ _ _ (Field.stable_required rfl) (by decide),
    keepsValue_port hrewritten (by decide),
    hplain _ _ _ (Field.stable_default rfl rfl) (by decide),
    hplain _ _ _ (Field.stable_optional rfl) (by decide),
    hplain _ _ _ (Field.stable_optional rfl) (by decide),
    keepsValue_anonymous hrewritten,
    hplain _ _ _ (Field.stable_default rfl rfl) (by decide),
    hplain _ _ _ (Field.stable_optional rfl) (by decide),
    hplain _ _ _ (Field.stable_optional rfl) (by decide),
    hplain _ _ _ (Field.stable_default rfl rfl) (by decide),
    hplain _ _ _ (Field.stable_optional rfl) (by decide),
    hplain _ _ _ (Field.stable_optional rfl) (by decide), fun _ h => absurd h List.not_mem_nil⟩

/-- The fields of legacy FTP properties read the dump as it is, before the port is set. -/
theorem ftpFields_validate_dump {payload : Json} {v : Instance}
    (hv : ftpConnectionProperties.validate payload = .ok v) :
    ftpFields.validate (.obj v.dump) = .ok ⟨v.mro, v.dump, v.dump⟩ ∧ v.dumpJson = v.dump := by
  obtain ⟨w, hw, rfl⟩ := ftp_validate_iff.mp hv
  obtain ⟨items, rfl⟩ := ModelDecl.exists_obj_of_validate hw
  obtain ⟨-, out, rewritten, hvalues, hout, rfl⟩ :=
    (ModelDecl.validate_iff (by decide) (by decide)).mp hw
  rw [← Except.ok.inj hout, rewrite_nil]
  have hset := setPort_eq_rewrite (validateModePort (.obj items) out) out
  refine ⟨?_, rfl⟩
  show ftpFields.validate (.obj (setPort (validateModePort (.obj items) out) out)) =
    .ok ⟨_, setPort (validateModePort (.obj items) out) out,
      setPort (validateModePort (.obj items) out) out⟩
  rw [hset]
  refine ModelDecl.validate_record (by decide) (by decide) (by decide)
    ((map_fst_rewrite _ out).trans hvalues.keys) rfl ?_
  intro field hf u hu
  obtain ⟨u', hu', hr⟩ := hvalues.reads field hf
  rw [lookup_rewrite, hu', Option.map_some, Option.some.injEq] at hu
  rw [before_rewrite, ← hu]
  exact ftpLegacyFields_keepValues setPort_rewritten field hf _ _ _ hr

/-- `FTPConnectionProperties` reads a dump back exactly when it is none of plain FTP on 990. -/
theorem ftpConnectionProperties_readsBack_iff {payload : Json} {v : Instance}
    (hv : ftpConnectionProperties.validate payload = .ok v) :
    ftpConnectionProperties.validate (.obj v.dump) = .ok v ↔ Rereadable .ftp v.dump := by
  obtain ⟨hfields, hdump⟩ := ftpFields_validate_dump hv
  obtain ⟨n, hport, -, himplicit⟩ := ftp_port hv
  have hmode : ∃ mode, v.dump.lookup "mode" = some mode := by
    have hmem : Field.of "mode" (.oneOf ["sftp", "ftp", "ftps_implicit", "ftps_explicit"])
      (some (.str "ftp")) ∈ ftpLegacyFields := List.mem_of_getElem? (i := 2) rfl
    obtain ⟨mode, hmode, -⟩ := ftpConnectionProperties_fixes hv _ hmem
    exact ⟨mode, hmode⟩
  obtain ⟨mode, hmode⟩ := hmode
  have hagain : ftpConnectionProperties.validate (.obj v.dump) = .ok v ↔
      setPort (validateModePort (.obj v.dump) v.dump) v.dump = v.dump := by
    rw [ftp_validate_iff]
    constructor
    · rintro ⟨w, hw, hsame⟩
      cases hfields.symm.trans hw
      exact (congrArg Instance.dump hsame).symm
    · intro hsame
      refine ⟨_, hfields, ?_⟩
      dsimp only
      rw [hsame]
      exact congrArg (Instance.mk v.mro v.dump) hdump
  have hset : mode = .str "ftp" ∧ n = 990 ∧ validateModePort (.obj v.dump) v.dump = some 21 ∨
      ¬ (mode = .str "ftp" ∧ n = 990) ∧ validateModePort (.obj v.dump) v.dump = none := by
    unfold validateModePort
    simp only [Json.obj?, Option.bind_some, hmode, hport]
    split
    · rename_i hm hn
      cases hm
      cases hn
      exact absurd rfl (himplicit hmode)
    · rename_i hm hn
      cases hm
      cases hn
      exact Or.inl ⟨rfl, rfl, rfl⟩
    · rename_i hother
      refine Or.inr ⟨?_, rfl⟩
      rintro ⟨rfl, rfl⟩
      exact hother rfl rfl
  have hready : Rereadable .ftp v.dump ↔ ¬ (mode = .str "ftp" ∧ n = 990) := by
    unfold Rereadable
    dsimp only
    rw [hmode, hport, Option.some.injEq, Option.some.injEq, Json.int.injEq]
  rw [hagain, hready]
  rcases hset with ⟨rfl, rfl, hset⟩ | ⟨hnot, hset⟩
  · refine iff_of_false (fun hsame => ?_) fun h => h ⟨rfl, rfl⟩
    have hlookup := lookup_setPort (some 21) v.dump "port"
    rw [hset] at hsame
    rw [hsame, hport] at hlookup
    exact absurd hlookup (by decide)
  · refine iff_of_true ?_ hnot
    rw [hset, setPort_eq_rewrite]
    exact rewrite_nil v.dump

/-! ## SFTP -/

/-- `validate_auth_method` accepts any password: no field is called `look_for_keys`. -/
theorem validateAuthMethod_eq_ok {data : Dict Json} (h : data.lookup "look_for_keys" = none)
    (u : Json) : validateAuthMethod data u = .ok u := by
  unfold validateAuthMethod
  dsimp only
  refine if_neg ?_
  rw [h]
  simp [Json.truthy]

/-- The path of the private key stays as it is, on the same file system. -/
theorem stable_legacyPath (host : Host) : (legacyPathField host).Stable := by
  refine Field.stable_after rfl ?_ ?_
  · intro soFar u w hread hw
    rcases validatePrivateKeyPath_spec hread hw with rfl | ⟨s, rfl, hfile⟩
    · exact ⟨rfl, rfl⟩
    · refine ⟨rfl, ?_⟩
      unfold validatePrivateKeyPath
      dsimp only
      rcases hfile with rfl | ⟨hne, hexists, hfile⟩
      · rfl
      · rw [if_neg hne, hexists, hfile]
        split <;> rfl
  · intro soFar d hd
    cases hd
    exact ⟨rfl, rfl⟩

/-- `SFTPConnectionProperties` reads its dumps back, on the same file system. -/
theorem sftpConnectionProperties_readsBack {host : Host} {payload : Json} {v : Instance}
    (hv : (sftpConnectionProperties host).validate payload = .ok v) :
    (sftpConnectionProperties host).validate (.obj v.dump) = .ok v := by
  have hport : (portField 22).Stable := fun soFar given w h =>
    portField_reads_of_isPort (portField_isPort (by decide) h)
  have hextra : Extra.ignore ≠ .allow := by decide
  have halias : NoAliasIsName (sftpLegacyFields host) := of_decide_eq_true rfl
  let password : Field := { Field.optional "password" .str with after := validateAuthMethod }
  have hmem : password ∈ sftpLegacyFields host := List.mem_of_getElem? (i := 3) rfl
  have hfields : ∀ field ∈ sftpLegacyFields host, field = password ∨ field.Stable := by
    simp only [sftpLegacyFields, List.forall_mem_cons]
    exact ⟨Or.inr (Field.stable_required rfl), Or.inr hport, Or.inr (Field.stable_required rfl),
      Or.inl rfl, Or.inr (stable_legacyPath host), Or.inr (Field.stable_optional rfl),
      Or.inr (Field.stable_optional rfl), Or.inr (Field.stable_optional rfl),
      Or.inr (Field.stable_default rfl rfl), fun _ h => absurd h List.not_mem_nil⟩
  obtain ⟨w, hw, hfixes⟩ := sftpConnectionProperties_fixes hv password hmem
  refine (ModelDecl.validate_dump_iff hextra (sftpLegacyFields_nodup host) halias (fun _ => rfl)
    hmem hfields hv hw).mpr ?_
  have hnone : (before v.dump "password").lookup "look_for_keys" = none := by
    rw [List.lookup_eq_none_iff]
    intro item hitem
    have hkey : item.1 ∈ v.dump.map Prod.fst :=
      List.mem_map_of_mem ((List.takeWhile_sublist _).subset hitem)
    rw [sftpConnectionProperties_keys hv, sftpLegacyFields_names] at hkey
    refine bne_iff_ne.mpr fun hname => ?_
    rw [← hname] at hkey
    exact absurd hkey (by decide)
  exact (Field.reads_some_iff rfl).mpr ⟨w, w, rfl, hfixes, validateAuthMethod_eq_ok hnone w⟩

/-! ## All types -/

/-- The legacy model of a type reads the dump of its instances back exactly where they are
`Rereadable`. -/
theorem propertiesModel_readsBack_iff {host : Host} {type : ConnectionType}
    (htype : type ≠ .custom) {payload : Json} {v : Instance}
    (hv : (propertiesModel host type).validate payload = .ok v) :
    (propertiesModel host type).validate (.obj v.dump) = .ok v ↔ Rereadable type v.dump := by
  have hsql : sqlConnectionProperties.validate payload = .ok v →
      sqlConnectionProperties.validate (.obj v.dump) = .ok v := by
    intro hv
    rw [(ModelDecl.instance_of_validate hv).2]
    exact sqlConnectionProperties_readsBack _ _ hv
  cases type with
  | kafka =>
    refine iff_of_true ?_ trivial
    rw [(ModelDecl.instance_of_validate hv).2]
    exact kafkaConnectionProperties_readsBack _ _ hv
  | s3 => exact s3ConnectionProperties_readsBack_iff hv
  | ftp => exact ftpConnectionProperties_readsBack_iff hv
  | sftp => exact iff_of_true (sftpConnectionProperties_readsBack hv) trivial
  | custom => exact absurd rfl htype
  | _ => exact iff_of_true (hsql hv) trivial

end DbConnection.Compat
