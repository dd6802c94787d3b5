import DbConnection.Compat.Encryption

/-!
# Secrets over a history of keys

A stored payload is loaded and saved again any number of times, each time under some key or with
none configured. `encrypt_sensitive_fields` leaves what is marked as a ciphertext, and
`decrypt_sensitive_fields` what it cannot decrypt. So a secret is stored as it is until the first
save under a key, and from then on as one token of it under that key, whatever keys follow
(`storedUnder_resaved`). `resaved_secret` is what this says of a whole payload.
-/

namespace DbConnection.Compat

open PyData PyText

variable {K : Type}

/-- What is relied on of Fernets with different keys. -/
structure SeparateKeys (keys : K → Fernet) : Prop where
  /-- A token decrypts under its own key. -/
  own : ∀ key random s, (keys key).decrypt ((keys key).encrypt random s) = some s
  /-- A token decrypts under no other key. -/
  other : ∀ key key' random s, key ≠ key' →
    (keys key').decrypt ((keys key).encrypt random s) = none

/-- A save: the key that is configured, if any, and the randomness of each field. -/
structure Save (K : Type) where
  key : Option K
  random : String → Nat

section Payload

variable (keys : K → Fernet)

/-- The payload as it is saved. -/
def save (cycle : Save K) (payload : Dict Json) : Dict Json :=
  encryptSensitiveFields (cycle.key.map keys) cycle.random payload

/-- A stored payload after it was loaded and saved under the configured key. -/
def resave (stored : Dict Json) (cycle : Save K) : Dict Json :=
  save keys cycle (decryptSensitiveFields (cycle.key.map keys) stored)

/-- What is stored of a payload after its initial save and a sequence of loads and saves. -/
def resaved (first : Save K) (cycles : List (Save K)) (payload : Dict Json) : Dict Json :=
  cycles.foldl (resave keys) (save keys first payload)

end Payload

/-- What the initial save establishes and every cycle keeps holds of what is stored. -/
theorem resaved_induction {keys : K → Fernet} {P : Dict Json → Prop} {first : Save K}
    {payload : Dict Json} (hfirst : P (save keys first payload))
    (hcycle : ∀ cycle stored, P stored → P (resave keys stored cycle)) (cycles : List (Save K)) :
    P (resaved keys first cycles payload) :=
  List.foldlRecOn cycles (resave keys) hfirst fun stored h cycle _ => hcycle cycle stored h

/-- The keys that were configured. -/
def usedKeys (saves : List (Save K)) : List K := saves.filterMap Save.key

/-- The first key of a history is that of its first save, or of the saves after it. -/
theorem head?_usedKeys_cons (cycle : Save K) (cycles : List (Save K)) :
    (usedKeys (cycle :: cycles)).head? = cycle.key.or (usedKeys cycles).head? := by
  unfold usedKeys
  cases h : cycle.key with
  | none => rw [List.filterMap_cons_none h, Option.none_or]
  | some key => rw [List.filterMap_cons_some h, List.head?_cons, Option.some_or]

/-! ## One value -/

section Value

variable (keys : K → Fernet) (cycle : Save K) (field : String)

/-- The value of a sensitive field as it is saved. -/
def saveValue (value : Json) : Json :=
  match cycle.key with
  | none => value
  | some key => encryptValue (keys key) (cycle.random field) value

/-- The value of a sensitive field as it is loaded. -/
def loadValue (value : Json) : Json :=
  match cycle.key with
  | none => value
  | some key => decryptValue (keys key) value

/-- A field of a saved payload. -/
theorem lookup_save (payload : Dict Json) :
    (save keys cycle payload).lookup field =
      if field ∈ sensitiveFields then (payload.lookup field).map (saveValue keys cycle field)
      else payload.lookup field := by
  unfold save saveValue
  cases cycle.key with
  | none => simp [encryptSensitiveFields]
  | some key => exact lookup_encryptSensitiveFields cycle.random payload field

/-- A field of a stored payload that is loaded and saved. -/
theorem lookup_resave (stored : Dict Json) :
    (resave keys stored cycle).lookup field =
      if field ∈ sensitiveFields then
        (stored.lookup field).map fun value =>
          saveValue keys cycle field (loadValue keys cycle value)
      else stored.lookup field := by
  have hload : (decryptSensitiveFields (cycle.key.map keys) stored).lookup field =
      if field ∈ sensitiveFields then (stored.lookup field).map (loadValue keys cycle)
      else stored.lookup field := by
    unfold loadValue
    cases cycle.key with
    | none => simp [decryptSensitiveFields]
    | some key => exact lookup_decryptSensitiveFields stored field
  unfold resave
  rw [lookup_save, hload]
  by_cases hfield : field ∈ sensitiveFields
  · simp only [if_pos hfield, Option.map_map]
    rfl
  · simp only [if_neg hfield]

end Value

/-- The text is stored as it is, or, under a key, as a token of it. -/
def StoredUnder (keys : K → Fernet) (s : String) (key : Option K) (value : Json) : Prop :=
  match key with
  | none => value = .str s
  | some key => ∃ random, value = .str (fernetPrefix ++ (keys key).encrypt random s)

section Secret

variable {keys : K → Fernet} {s : String} {key : Option K} {value : Json}

/-- The first save of a text under a key makes a token of it. -/
theorem storedUnder_saveValue (hne : s ≠ "") (hs : startsWith fernetPrefix s = false)
    (cycle : Save K) (field : String) :
    StoredUnder keys s cycle.key (saveValue keys cycle field (.str s)) := by
  unfold StoredUnder saveValue
  cases cycle.key with
  | none => rfl
  | some key => exact ⟨cycle.random field, encryptValue_of_plain hne hs⟩

/-- A cycle keeps what a text is stored under, and stores it under the cycle's key if it was stored
as it is. -/
theorem storedUnder_cycle (hkeys : SeparateKeys keys) (hne : s ≠ "")
    (hs : startsWith fernetPrefix s = false) (cycle : Save K) (field : String)
    (h : StoredUnder keys s key value) :
    StoredUnder keys s (key.or cycle.key)
      (saveValue keys cycle field (loadValue keys cycle value)) := by
  cases key with
  | none =>
    have hvalue : value = .str s := h
    have hload : loadValue keys cycle (.str s) = .str s := by
      unfold loadValue
      cases cycle.key with
      | none => rfl
      | some key => exact decryptValue_of_plain hs
    rw [hvalue, hload, Option.none_or]
    exact storedUnder_saveValue hne hs cycle field
  | some key =>
    obtain ⟨random, rfl⟩ := h
    rw [Option.some_or]
    unfold saveValue loadValue
    cases hcycle : cycle.key with
    | none => exact ⟨random, rfl⟩
    | some key' =>
      dsimp only
      by_cases hsame : key = key'
      · -- Under its own key the token is decrypted, and another one is made.
        subst hsame
        rw [decryptValue_of_decrypt (hkeys.own key random s)]
        exact ⟨cycle.random field, encryptValue_of_plain hne hs⟩
      · -- Under another key it is left, and taken for a ciphertext.
        rw [decryptValue_of_not_decrypt (hkeys.other key key' random s hsame),
          encryptValue_of_marked (startsWith_append _ _)]
        exact ⟨random, rfl⟩

/-- A text that is stored under a key, or under none, is stored under it, or the first key that
follows, after any cycles. -/
theorem storedUnder_cycles (hkeys : SeparateKeys keys) (hne : s ≠ "")
    (hs : startsWith fernetPrefix s = false) {field : String} (hfield : field ∈ sensitiveFields)
    (cycles : List (Save K)) {stored : Dict Json} (hvalue : stored.lookup field = some value)
    (h : StoredUnder keys s key value) :
    ∃ value', (cycles.foldl (resave keys) stored).lookup field = some value' ∧
      StoredUnder keys s (key.or (usedKeys cycles).head?) value' := by
  induction cycles generalizing stored key value with
  | nil =>
    have hnone : (usedKeys ([] : List (Save K))).head? = none := rfl
    rw [hnone, Option.or_none]
    exact ⟨value, hvalue, h⟩
  | cons cycle cycles ih =>
    have hnext : (resave keys stored cycle).lookup field =
        some (saveValue keys cycle field (loadValue keys cycle value)) := by
      rw [lookup_resave, if_pos hfield, hvalue, Option.map_some]
    rw [head?_usedKeys_cons, ← Option.or_assoc]
    exact ih hnext (storedUnder_cycle hkeys hne hs cycle field h)

/-- A text that is neither empty nor marked is stored under the first key of the history. -/
theorem storedUnder_resaved (hkeys : SeparateKeys keys) (hne : s ≠ "")
    (hs : startsWith fernetPrefix s = false) {field : String} (hfield : field ∈ sensitiveFields)
    {payload : Dict Json} (hpayload : payload.lookup field = some (.str s)) (first : Save K)
    (cycles : List (Save K)) :
    ∃ value, (resaved keys first cycles payload).lookup field = some value ∧
      StoredUnder keys s (usedKeys (first :: cycles)).head? value := by
  have hfirst : (save keys first payload).lookup field =
      some (saveValue keys first field (.str s)) := by
    rw [lookup_save, if_pos hfield, hpayload, Option.map_some]
  rw [head?_usedKeys_cons]
  exact storedUnder_cycles hkeys hne hs hfield cycles hfirst
    (storedUnder_saveValue hne hs first field)

/-- A token of a text under one key decrypts, under any key, to no other text. -/
theorem eq_of_isTokenOf_encrypt (hkeys : SeparateKeys keys) {key key' : K} {random : Nat}
    {t : String} (h : IsTokenOf (keys key') t (.str (fernetPrefix ++ (keys key).encrypt random s))) :
    t = s := by
  obtain ⟨token, htoken, hdecrypt⟩ := h
  have hsame : (keys key).encrypt random s = token := by
    have hdrop := congrArg (dropFirst fernetPrefix.length) (Json.str.inj htoken)
    rwa [dropFirst_append, dropFirst_append] at hdrop
  rw [← hsame] at hdecrypt
  by_cases hkey : key = key'
  · rw [← hkey, hkeys.own, Option.some.injEq] at hdecrypt
    exact hdecrypt.symm
  · rw [hkeys.other key key' random s hkey] at hdecrypt
    cases hdecrypt

end Secret

/-! ## Payloads -/

section Unchanged

variable {keys : K → Fernet}

/-- The value is not encrypted: it is no text, or an empty one. -/
def NotEncrypted (value : Json) : Prop := ∀ s, value = .str s → s = ""

/-- A value that is not encrypted is saved as it is. -/
theorem saveValue_of_notEncrypted {value : Json} (h : NotEncrypted value) (cycle : Save K)
    (field : String) : saveValue keys cycle field value = value := by
  unfold saveValue
  cases cycle.key with
  | none => rfl
  | some key =>
    cases value with
    | str s =>
      rw [h s rfl]
      rfl
    | _ => rfl

/-- A value that is not encrypted is loaded as it is. -/
theorem loadValue_of_notEncrypted {value : Json} (h : NotEncrypted value) (cycle : Save K) :
    loadValue keys cycle value = value := by
  unfold loadValue
  cases cycle.key with
  | none => rfl
  | some key =>
    cases value with
    | str s =>
      rw [h s rfl]
      rfl
    | _ => rfl

/-- A field that is not sensitive, or whose value is not encrypted, is unchanged. -/
theorem lookup_resaved_of_notEncrypted (first : Save K) (cycles : List (Save K))
    {payload : Dict Json} {field : String} {value : Json}
    (hvalue : payload.lookup field = some value)
    (h : field ∉ sensitiveFields ∨ NotEncrypted value) :
    (resaved keys first cycles payload).lookup field = some value := by
  refine resaved_induction (P := fun stored => stored.lookup field = some value) ?_ ?_ cycles
  · rw [lookup_save, hvalue]
    split
    · rename_i hfield
      rw [Option.map_some, saveValue_of_notEncrypted (h.resolve_left (not_not_intro hfield))]
    · rfl
  · intro cycle stored hstored
    rw [lookup_resave, hstored]
    split
    · rename_i hfield
      have hplain := h.resolve_left (not_not_intro hfield)
      rw [Option.map_some, loadValue_of_notEncrypted hplain, saveValue_of_notEncrypted hplain]
    · rfl

/-- A save keeps the fields of a payload. -/
theorem keys_save (cycle : Save K) (payload : Dict Json) :
    (save keys cycle payload).map Prod.fst = payload.map Prod.fst := by
  unfold save encryptSensitiveFields mapSensitiveFields
  cases cycle.key with
  | none => rfl
  | some key => exact Dict.keys_modifyKeys _ _ _

/-- A load keeps the fields of a payload. -/
theorem keys_decryptSensitiveFields (fernet : Option Fernet) (payload : Dict Json) :
    (decryptSensitiveFields fernet payload).map Prod.fst = payload.map Prod.fst := by
  unfold decryptSensitiveFields mapSensitiveFields
  cases fernet with
  | none => rfl
  | some fernet => exact Dict.keys_modifyKeys _ _ _

/-- The fields of a payload stay what and where they are. -/
theorem keys_resaved (first : Save K) (cycles : List (Save K)) (payload : Dict Json) :
    (resaved keys first cycles payload).map Prod.fst = payload.map Prod.fst := by
  refine resaved_induction (P := fun stored => stored.map Prod.fst = payload.map Prod.fst)
    (keys_save first payload) ?_ cycles
  intro cycle stored h
  unfold resave
  rw [keys_save, keys_decryptSensitiveFields, h]

end Unchanged

/-- After any initial save and any cycles of loads and saves, each under some key or none, of a
payload without marked secrets: a sensitive text is stored as it is or as one token of it under a
key that was used, which loads as the text under that key, and is a token of nothing else; every
other field, every value that is no text and every empty text is unchanged. -/
theorem resaved_secret {keys : K → Fernet} (hkeys : SeparateKeys keys) {payload : Dict Json}
    (hplain : ∀ field ∈ sensitiveFields, ∀ s, payload.lookup field = some (.str s) →
      startsWith fernetPrefix s = false) (first : Save K) (cycles : List (Save K)) :
    (∀ field ∈ sensitiveFields, ∀ s, payload.lookup field = some (.str s) →
      ∃ value, (resaved keys first cycles payload).lookup field = some value ∧
        (value = .str s ∨ ∃ key ∈ usedKeys (first :: cycles),
          (∃ random, value = .str (fernetPrefix ++ (keys key).encrypt random s)) ∧
          (decryptSensitiveFields (some (keys key)) (resaved keys first cycles payload)).lookup field =
            some (.str s)) ∧
        ∀ key t, IsTokenOf (keys key) t value → t = s) ∧
    (∀ field value, payload.lookup field = some value →
      field ∉ sensitiveFields ∨ NotEncrypted value →
      (resaved keys first cycles payload).lookup field = some value) ∧
    (resaved keys first cycles payload).map Prod.fst = payload.map Prod.fst := by
  refine ⟨?_, fun field value hvalue h => lookup_resaved_of_notEncrypted first cycles hvalue h,
    keys_resaved first cycles payload⟩
  intro field hfield s hs
  have hmark := hplain field hfield s hs
  have hnoToken : ∀ key t, IsTokenOf (keys key) t (.str s) → t = s := by
    intro key t htoken
    rw [htoken.startsWith] at hmark
    cases hmark
  by_cases hne : s = ""
  · have hempty : NotEncrypted (.str s) := fun t ht => (Json.str.inj ht).symm.trans hne
    exact ⟨.str s, lookup_resaved_of_notEncrypted first cycles hs (Or.inr hempty), Or.inl rfl,
      hnoToken⟩
  · obtain ⟨value, hvalue, hstored⟩ :=
      storedUnder_resaved hkeys hne hmark hfield hs first cycles
    refine ⟨value, hvalue, ?_⟩
    cases hkey : (usedKeys (first :: cycles)).head? with
    | none =>
      rw [hkey] at hstored
      have hsame : value = .str s := hstored
      rw [hsame]
      exact ⟨Or.inl rfl, hnoToken⟩
    | some key =>
      rw [hkey] at hstored
      obtain ⟨random, rfl⟩ := hstored
      refine ⟨Or.inr ⟨key, List.mem_of_head? hkey, ⟨random, rfl⟩, ?_⟩,
        fun key' t => eq_of_isTokenOf_encrypt hkeys⟩
      rw [lookup_decryptSensitiveFields, if_pos hfield, hvalue, Option.map_some,
        decryptValue_of_decrypt (hkeys.own key random s)]

/-- The mark of a key. -/
def keyMark (key : Bool) : String := if key then "gAAAAA" else "gBBBBB"

/-- A Fernet whose tokens are the texts after the mark of its key. -/
def keyedFernet (key : Bool) : Fernet where
  encrypt _ s := keyMark key ++ s
  decrypt token :=
    if startsWith (keyMark key) token then some (dropFirst (keyMark key).length token) else none

/-- A text after one mark does not start with another. -/
theorem startsWith_keyMark {key key' : Bool} (hne : key ≠ key') (s : String) :
    startsWith (keyMark key') (keyMark key ++ s) = false := by
  unfold startsWith
  rw [String.toList_append]
  cases key <;> cases key'
  · exact absurd rfl hne
  · rfl
  · rfl
  · exact absurd rfl hne

/-- The two keys are separate. -/
theorem separateKeys_keyedFernet : SeparateKeys keyedFernet where
  own key random s := by
    simp [keyedFernet, startsWith_append, dropFirst_append]
  other key key' random s hne := by
    simp [keyedFernet, startsWith_keyMark hne]

/-- The properties of a connection whose password is saved without a key, and again under one key
and under another. -/
theorem resaved_secret_password :
    let stored := resaved keyedFernet ⟨none, fun _ => 0⟩
      [⟨some true, fun _ => 1⟩, ⟨some false, fun _ => 2⟩]
      [("host", .str "db"), ("password", .str "secret")]
    (∃ value, stored.lookup "password" = some value ∧ ∀ key t,
      IsTokenOf (keyedFernet key) t value → t = "secret") ∧
      stored.lookup "host" = some (.str "db") := by
  intro stored
  have hplain : ∀ field ∈ sensitiveFields, ∀ s,
      ([("host", .str "db"), ("password", .str "secret")] : Dict Json).lookup field = some (.str s) →
        startsWith fernetPrefix s = false := by
    intro field hfield s hs
    simp only [sensitiveFields, List.mem_cons, List.not_mem_nil, or_false] at hfield
    rcases hfield with rfl | rfl | rfl | rfl | rfl
    · cases hs
      rfl
    all_goals cases hs
  obtain ⟨hsecrets, hothers, -⟩ := resaved_secret separateKeys_keyedFernet hplain
    ⟨none, fun _ => 0⟩ [⟨some true, fun _ => 1⟩, ⟨some false, fun _ => 2⟩]
  obtain ⟨value, hvalue, -, hone⟩ := hsecrets "password" (by decide) "secret" rfl
  exact ⟨⟨value, hvalue, hone⟩, hothers "host" _ rfl (Or.inl (by decide))⟩

end DbConnection.Compat
