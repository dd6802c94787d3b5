import DbConnection.Compat.Properties

/-!
# The column of legacy connection properties

`compat/encryption.py` and `compat/sa_types.py`: on its way into the database the dump of the
properties has its sensitive fields encrypted, each on its own, where a key is configured, and on
its way back decrypted. A ciphertext is marked by a prefix, and a value that has the prefix already
is taken for one. The Fernet of the `cryptography` package is a parameter.
-/

namespace DbConnection.Compat

open PyData Pydantic PyText

/-- `FERNET_PREFIX`. -/
def fernetPrefix : String := "fernet$"

/-- `SENSITIVE_FIELDS`. -/
def sensitiveFields : List String :=
  ["password", "sasl_plain_password", "access_token_id", "access_token_key", "session_token"]

/-- A `Fernet` with its key, on texts. Encryption is randomised, so it takes the randomness it uses;
decryption fails on what is no token under the key. -/
structure Fernet where
  encrypt : Nat → String → String
  decrypt : String → Option String

/-- What is relied on of Fernet: a token decrypts to its text, and is longer than it. -/
structure Fernet.Lawful (fernet : Fernet) : Prop where
  decrypt_encrypt : ∀ random s, fernet.decrypt (fernet.encrypt random s) = some s
  length_lt : ∀ token s, fernet.decrypt token = some s → s.length < token.length

/-- `_encrypt_value`. -/
def encryptValue (fernet : Fernet) (random : Nat) (value : Json) : Json :=
  match value with
  | .str s =>
    -- `if not value`, then the shortcut for what is encrypted already.
    if s = "" then value
    else if startsWith fernetPrefix s then value
    else .str (fernetPrefix ++ fernet.encrypt random s)
  | _ => value

/-- `_decrypt_value`. -/
def decryptValue (fernet : Fernet) (value : Json) : Json :=
  match value with
  | .str s =>
    if !startsWith fernetPrefix s then value
    else
      match fernet.decrypt (dropFirst fernetPrefix.length s) with
      | some text => .str text
      -- Any exception, as after a change of the key: the value is left as it is stored.
      | none => value
  | _ => value

/-- The loop over the sensitive fields of a payload, which leaves `None`. -/
def mapSensitiveFields (f : String → Json → Json) (payload : Dict Json) : Dict Json :=
  payload.modifyKeys (fun field value => if value = .null then value else f field value)
    sensitiveFields

/-- `encrypt_sensitive_fields`, with the randomness of each field. -/
def encryptSensitiveFields (fernet : Option Fernet) (random : String → Nat)
    (payload : Dict Json) : Dict Json :=
  match fernet with
  | none => payload
  | some fernet => mapSensitiveFields (fun field => encryptValue fernet (random field)) payload

/-- `decrypt_sensitive_fields`. -/
def decryptSensitiveFields (fernet : Option Fernet) (payload : Dict Json) : Dict Json :=
  match fernet with
  | none => payload
  | some fernet => mapSensitiveFields (fun _ => decryptValue fernet) payload

/-- A value of an attribute of a `DBConnection`: plain data or an instance of a model. -/
inductive AttributeValue where
  | json (value : Json)
  | model (v : Instance)
  deriving DecidableEq, Repr, Inhabited

/-- `model.model_validate(value)` of an attribute's value. -/
def validateAttribute (m : ModelClass) : AttributeValue → Except ModelError Instance
  | .json value => m.validate value
  | .model v => m.validateInstance v

/-- `PydanticType.process_bind_param`. -/
def processBindParam (fernet : Option Fernet) (random : String → Nat) :
    AttributeValue → Except PyError Json
  | .json .null => .ok .null
  | .model v =>
    if connectionPropertiesType.any fun cls => v.isInstance cls then
      .ok (.obj (encryptSensitiveFields fernet random v.dump))
    else .error (.typeError s!"Expected ConnectionPropertiesType or dict, got {v.cls.qualname}")
  | .json (.obj items) => .ok (.obj (encryptSensitiveFields fernet random items))
  | .json value =>
    .error (.typeError s!"Expected ConnectionPropertiesType or dict, got {value.typeName}")

/-- `PydanticType.process_result_value`: the union of the models reads the decrypted properties. -/
def processResultValue (fernet : Option Fernet) (host : Host) : Json → Except PyError AttributeValue
  | .null => .ok (.json .null)
  | value =>
    let decrypted := match value with
      | .obj items => .obj (decryptSensitiveFields fernet items)
      | _ => value
    let models := [sqlConnectionProperties, kafkaConnectionProperties, s3ConnectionProperties host,
      ftpConnectionProperties, sftpConnectionProperties host]
    match unionOf "ConnectionPropertiesType" (models.map fun m => m.parse decrypted) with
    | .ok r => .ok (.model r.value)
    | .error e => .error (.ofModel .pydanticError e)

/-- A stored value other than `None` is read as an instance. -/
theorem exists_model_of_processResultValue {fernet : Option Fernet} {host : Host} {value : Json}
    {assigned : AttributeValue} (hne : value ≠ .null)
    (h : processResultValue fernet host value = .ok assigned) : ∃ v, assigned = .model v := by
  unfold processResultValue at h
  split at h
  · exact absurd rfl hne
  · dsimp only at h
    split at h
    · cases h
      exact ⟨_, rfl⟩
    · cases h

/-! ## What is encrypted -/

/-- A field after the loop over the sensitive fields with a function that leaves `None`. -/
theorem lookup_mapSensitiveFields {f : String → Json → Json} (hnull : ∀ field, f field .null = .null)
    (payload : Dict Json) (field : String) :
    (mapSensitiveFields f payload).lookup field =
      if field ∈ sensitiveFields then (payload.lookup field).map (f field)
      else payload.lookup field := by
  unfold mapSensitiveFields
  rw [Dict.lookup_modifyKeys _ (by decide)]
  congr 1
  refine congrArg (Option.map · _) (funext fun value => ?_)
  split
  · rename_i h
    rw [h, hnull]
  · rfl

section Encrypted

variable {fernet : Fernet} {random : Nat} {s : String}

/-- A text that is neither empty nor marked becomes a marked token. -/
theorem encryptValue_of_plain (hne : s ≠ "") (hs : startsWith fernetPrefix s = false) :
    encryptValue fernet random (.str s) = .str (fernetPrefix ++ fernet.encrypt random s) := by
  simp [encryptValue, hne, hs]

/-- A marked text stays as it is. -/
theorem encryptValue_of_marked (hs : startsWith fernetPrefix s = true) :
    encryptValue fernet random (.str s) = .str s := by
  simp [encryptValue, hs]

/-- A field of an encrypted payload: a sensitive one has its value encrypted. -/
theorem lookup_encryptSensitiveFields (random : String → Nat) (payload : Dict Json)
    (field : String) :
    (encryptSensitiveFields (some fernet) random payload).lookup field =
      if field ∈ sensitiveFields then
        (payload.lookup field).map (encryptValue fernet (random field))
      else payload.lookup field :=
  lookup_mapSensitiveFields (fun _ => rfl) payload field

/-- A field of a decrypted payload. -/
theorem lookup_decryptSensitiveFields (payload : Dict Json) (field : String) :
    (decryptSensitiveFields (some fernet) payload).lookup field =
      if field ∈ sensitiveFields then (payload.lookup field).map (decryptValue fernet)
      else payload.lookup field :=
  lookup_mapSensitiveFields (fun _ => rfl) payload field

/-- A text that is not marked is not decrypted. -/
theorem decryptValue_of_plain (hs : startsWith fernetPrefix s = false) :
    decryptValue fernet (.str s) = .str s := by
  simp [decryptValue, hs]

/-- Decrypting a marked token gives its text. -/
theorem decryptValue_of_decrypt {token : String} (h : fernet.decrypt token = some s) :
    decryptValue fernet (.str (fernetPrefix ++ token)) = .str s := by
  simp [decryptValue, startsWith_append, dropFirst_append, h]

/-- A marked text that is no token is left as it is. -/
theorem decryptValue_of_not_decrypt {token : String} (h : fernet.decrypt token = none) :
    decryptValue fernet (.str (fernetPrefix ++ token)) = .str (fernetPrefix ++ token) := by
  simp [decryptValue, startsWith_append, dropFirst_append, h]

/-- Decrypting an encrypted text gives the text. -/
theorem decryptValue_encrypt (hfernet : fernet.Lawful) (random : Nat) (s : String) :
    decryptValue fernet (.str (fernetPrefix ++ fernet.encrypt random s)) = .str s :=
  decryptValue_of_decrypt (hfernet.decrypt_encrypt random s)

/-- The value is the marker followed by a token of the text. -/
def IsTokenOf (fernet : Fernet) (s : String) (value : Json) : Prop :=
  ∃ token, value = .str (fernetPrefix ++ token) ∧ fernet.decrypt token = some s

/-- A token of a text is not the text itself. -/
theorem not_isTokenOf_self (hfernet : fernet.Lawful) : ¬ IsTokenOf fernet s (.str s) := by
  rintro ⟨token, hs, htoken⟩
  have hlength := hfernet.length_lt token s htoken
  rw [Json.str.injEq] at hs
  rw [hs, String.length_append] at hlength
  omega

/-- A non-empty text becomes a token of itself exactly when it is not marked. -/
theorem isTokenOf_encryptValue_iff (hfernet : fernet.Lawful) (random : Nat) (hne : s ≠ "") :
    IsTokenOf fernet s (encryptValue fernet random (.str s)) ↔
      startsWith fernetPrefix s = false := by
  constructor
  · intro h
    by_contra hs
    rw [encryptValue_of_marked (by simpa using hs)] at h
    exact not_isTokenOf_self hfernet h
  · intro hs
    rw [encryptValue_of_plain hne hs]
    exact ⟨_, rfl, hfernet.decrypt_encrypt random s⟩

/-- A token is marked. -/
theorem IsTokenOf.startsWith {t : String} (h : IsTokenOf fernet s (.str t)) :
    startsWith fernetPrefix t = true := by
  obtain ⟨token, ht, -⟩ := h
  rw [Json.str.inj ht]
  exact startsWith_append fernetPrefix token

/-- A marked text is decrypted if it is a token. -/
theorem decryptValue_marked_iff (hfernet : fernet.Lawful) {t : String}
    (ht : PyText.startsWith fernetPrefix t = true) :
    decryptValue fernet (.str t) = .str t ↔ ∀ s, ¬ IsTokenOf fernet s (.str t) := by
  have htoken : t = fernetPrefix ++ dropFirst fernetPrefix.length t := startsWith_iff.mp ht
  cases hd : fernet.decrypt (dropFirst fernetPrefix.length t) with
  | none =>
    refine iff_of_true (by simp [decryptValue, hd]) ?_
    rintro s ⟨token, hs, hdecrypt⟩
    rw [Json.str.inj hs, dropFirst_append, hdecrypt] at hd
    cases hd
  | some text =>
    have hisToken : IsTokenOf fernet text (.str t) := ⟨_, congrArg Json.str htoken, hd⟩
    have hdecrypted : decryptValue fernet (.str t) = .str text := by simp [decryptValue, ht, hd]
    rw [hdecrypted]
    refine iff_of_false (fun hsame => ?_) fun h => h text hisToken
    rw [Json.str.inj hsame] at hisToken
    exact not_isTokenOf_self hfernet hisToken

/-- A value is what it was after its encryption and decryption exactly when it is no token. -/
theorem decryptValue_encryptValue_iff (hfernet : fernet.Lawful) (random : Nat) (value : Json) :
    decryptValue fernet (encryptValue fernet random value) = value ↔
      ∀ s, ¬ IsTokenOf fernet s value := by
  cases value with
  | str t =>
    cases ht : PyText.startsWith fernetPrefix t with
    | true =>
      rw [encryptValue_of_marked ht]
      exact decryptValue_marked_iff hfernet ht
    | false =>
      refine iff_of_true ?_ ?_
      · by_cases hne : t = ""
        · subst hne
          rfl
        · rw [encryptValue_of_plain hne ht, decryptValue_encrypt hfernet]
      · intro s h
        rw [h.startsWith] at ht
        cases ht
  | _ =>
    refine iff_of_true rfl ?_
    rintro s ⟨token, hs, -⟩
    cases hs

end Encrypted

/-- A Fernet whose tokens are the texts after a version mark. -/
def markFernet : Fernet where
  encrypt _ s := "gAAAAA" ++ s
  decrypt token := if startsWith "gAAAAA" token then some (dropFirst 6 token) else none

/-- Tokens of `markFernet` decrypt to their texts. -/
theorem lawful_markFernet : markFernet.Lawful where
  decrypt_encrypt random s := by
    have hdrop : dropFirst 6 ("gAAAAA" ++ s) = s := dropFirst_append "gAAAAA" s
    simp [markFernet, startsWith_append, hdrop]
  length_lt token s h := by
    simp only [markFernet] at h
    split at h
    · rename_i hstart
      cases h
      have htoken := startsWith_iff.mp hstart
      have hlength := congrArg String.length htoken
      rw [String.length_append] at hlength
      have hsix : "gAAAAA".length = 6 := rfl
      rw [hsix] at hlength
      omega
    · cases h

end DbConnection.Compat
