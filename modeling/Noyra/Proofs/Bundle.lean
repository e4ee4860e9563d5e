import Noyra.Lib.Digest
import Noyra.Migration.Bundle

/-!
# Bundles that are opened

A produced pair is opened for every context whose keys the manifest may carry, and whatever is opened is a produced
pair, up to the two transfer fields.
-/

namespace Noyra.Migration.Bundle.Proofs
open Noyra.Lib Noyra.Lib.Stream Noyra.Lib.JsonText Noyra.Migration.Bundle

variable {cfg : BundleConfig}

lemma decode_encode {data : Bytes} {n : Nat} (label : String) (hlen : data.length = n) (hn : 0 < n) :
    decode (.str (encode data)) n label = .ok data := by
  have htext : (encode data).toList = (Base64.encode data).filter (fun c => c ≠ '=') := String.toList_ofList
  have hne : encode data ≠ "" := by
    intro hempty
    have hnil : (encode data).toList = [] := by rw [hempty]; rfl
    have hback := Base64.encode_filter_pad data
    rw [← htext, hnil] at hback
    have hdec := Base64.decode_encode data
    rw [← hback] at hdec
    have hzero : data = [] := (Option.some.inj hdec).symm
    rw [hzero, List.length_nil] at hlen
    omega
  have hpad : '=' ∉ (encode data).toList := by
    rw [htext, List.mem_filter]
    rintro ⟨-, h⟩
    exact absurd h (by decide)
  unfold decode
  dsimp only
  rw [raiseIf_neg (by rw [not_or]; exact ⟨hne, hpad⟩), ok_bind, htext, Base64.encode_filter_pad, Base64.decode_encode,
    orRaise_some, ok_bind, raiseIf_neg (by rw [not_or]; exact ⟨not_not.mpr hlen, not_not.mpr rfl⟩)]
  rfl

lemma temporaryName_ne (destination token : String) : temporaryName destination token ≠ destination := by
  intro h
  have hlen := congrArg String.length h
  unfold temporaryName at hlen
  simp only [String.length_append] at hlen
  have hdot : ".".length = 1 := rfl
  omega

/-- What becomes of the directory. -/
lemma publish_spec (fs : Files) {temporary destination : String} (hne : temporary ≠ destination)
    (content : Except BundleError Bytes) :
    (∃ data, content = .ok data ∧ fs temporary = none ∧ fs destination = none ∧
      publish fs temporary destination content = (.ok (), Function.update fs destination (some data))) ∨
    (∃ e, (publish fs temporary destination content).1 = .error e ∧
      (publish fs temporary destination content).2 = Function.update fs temporary none) ∧
      ¬ (fs temporary = none ∧ fs destination = none ∧ ∃ data, content = .ok data) := by
  unfold publish
  by_cases htemp : (fs temporary).isSome = true
  · right
    rw [if_pos htemp]
    refine ⟨⟨_, rfl, rfl⟩, ?_⟩
    rintro ⟨hnone, -⟩
    rw [hnone] at htemp
    cases htemp
  · rw [if_neg htemp]
    cases content with
    | error e =>
      right
      refine ⟨⟨e, rfl, rfl⟩, ?_⟩
      rintro ⟨-, -, data, hdata⟩
      cases hdata
    | ok data =>
      by_cases hdest : (fs destination).isSome = true
      · right
        dsimp only
        rw [if_pos hdest]
        refine ⟨⟨_, rfl, rfl⟩, ?_⟩
        rintro ⟨-, hnone, -⟩
        rw [hnone] at hdest
        cases hdest
      · left
        have htempnone : fs temporary = none := by simpa using htemp
        have hdestnone : fs destination = none := by simpa using hdest
        refine ⟨data, rfl, htempnone, hdestnone, ?_⟩
        dsimp only
        rw [if_neg hdest]
        congr 1
        rw [Function.update_eq_self_iff, Function.update_of_ne hne, htempnone]

lemma nodup_metadata (recipient : Bytes) (draw : Draw) (context : Document.Entries) (data : Bytes) :
    ((metadata cfg recipient draw context data).map Prod.fst).Nodup := by
  unfold metadata
  exact Document.nodup_update (Document.nodup_update (List.nodup_singleton _))

lemma nodup_sealedEntries (recipient : Bytes) (draw : Draw) (data : Bytes) :
    ((sealedEntries cfg recipient draw data).map Prod.fst).Nodup := by
  unfold sealedEntries
  simp

lemma get?_metadata {context : Document.Entries} (hkeys : (context.map Prod.fst).Nodup) (recipient : Bytes)
    (draw : Draw) (data : Bytes) (k : String) :
    Document.get? (metadata cfg recipient draw context data) k =
      (Document.get? (sealedEntries cfg recipient draw data) k).or
        ((Document.get? context k).or (Document.get? [("format", .str bundleFormat)] k)) := by
  unfold metadata
  rw [Document.get?_update (nodup_sealedEntries _ _ _), Document.get?_update hkeys]

lemma get?_manifestOf (meta' : Document.Entries) (sealed : Bytes × Bytes) (k : String) :
    Document.get? (manifestOf cfg meta' sealed) k =
      if k = "ciphertext_sha256" then some (.str (cfg.sha256 (sealed.1 ++ sealed.2)))
      else if k = "ciphertext_size" then some (.int (sealed.1.length + sealed.2.length : Nat))
      else Document.get? meta' k := by
  unfold manifestOf
  rw [Document.get?_update (by simp), Document.get?_cons, Document.get?_cons]
  have hnil : Document.get? [] k = none := rfl
  rw [hnil]
  by_cases hsize : k = "ciphertext_size"
  · subst hsize
    simp
  · rw [if_neg hsize]
    by_cases hsha : k = "ciphertext_sha256"
    · rw [if_pos hsha, if_pos hsha]
      rfl
    · rw [if_neg hsha, if_neg hsha, if_neg hsize]
      rfl

/-- Everything in the metadata of a checked context is a text or an int. -/
def Plain : Document → Prop
  | .str _ => True
  | .int _ => True
  | _ => False

lemma sorted_eq_of_plain {x y : Document} (hy : Plain y) (h : x.sorted = y.sorted) : x = y := by
  cases y with
  | str s =>
    cases x with
    | str t => exact h
    | _ => simp [Document.sorted] at h
  | int i =>
    cases x with
    | int j => exact h
    | _ => simp [Document.sorted] at h
  | _ => exact absurd hy id

lemma keyed_of_plain {x : Document} (h : Plain x) : x.keyed = true := by
  cases x with
  | str s => rfl
  | int i => rfl
  | _ => exact absurd h id

lemma validateContext_ok {context : Document.Entries} (h : validateContext context = .ok ()) :
    (∀ k ∈ ["task_id", "target_id", "source_epoch"], (Document.get? context k).isSome = true) ∧
      (∀ e ∈ context, e.1 ≠ "") ∧
      (∀ e ∈ context, contextValue e.2 = true) ∧ (Document.get? context "subject_id").any
        (fun x => !(validSubjectId x)) = false := by
  unfold validateContext at h
  obtain ⟨_, hfields, hsubject⟩ := bind_eq_ok.mp h
  have hfields := raiseIf_eq_ok.mp hfields
  have hsubject := raiseIf_eq_ok.mp hsubject
  push Not at hfields
  obtain ⟨hrequired, hkeys, hvalues⟩ := hfields
  refine ⟨?_, fun e he hempty => hkeys ?_, ?_, by simpa using hsubject⟩
  · exact List.all_eq_true.mp (Bool.eq_true_of_not_eq_false hrequired)
  · rw [List.any_eq_true]
    exact ⟨e, he, decide_eq_true hempty⟩
  · exact List.all_eq_true.mp (Bool.eq_true_of_not_eq_false hvalues)

lemma plain_of_contextValue {x : Document} (h : contextValue x = true) : Plain x := by
  cases x with
  | str s => trivial
  | _ => cases h

lemma plain_metadata {context : Document.Entries} (hkeys : (context.map Prod.fst).Nodup)
    (hvalues : ∀ e ∈ context, contextValue e.2 = true)
    {recipient : Bytes} {draw : Draw} {data : Bytes} {k : String} {x : Document}
    (h : Document.get? (metadata cfg recipient draw context data) k = some x) : Plain x := by
  rw [get?_metadata hkeys, Option.or_eq_some_iff, Option.or_eq_some_iff] at h
  rcases h with h | ⟨-, h | ⟨-, h⟩⟩
  · have hmem := (Document.get?_eq_some_iff (nodup_sealedEntries _ _ _)).mp h
    unfold sealedEntries at hmem
    simp only [List.mem_cons, Prod.mk.injEq, List.not_mem_nil, or_false] at hmem
    rcases hmem with ⟨-, rfl⟩ | ⟨-, rfl⟩ | ⟨-, rfl⟩ | ⟨-, rfl⟩ | ⟨-, rfl⟩ | ⟨-, rfl⟩ <;> trivial
  · exact plain_of_contextValue (hvalues _ ((Document.get?_eq_some_iff hkeys).mp h))
  · have hmem := (Document.get?_eq_some_iff (by simp)).mp h
    simp only [List.mem_singleton, Prod.mk.injEq] at hmem
    rw [hmem.2]
    trivial

lemma keyed_metadata {context : Document.Entries} (hkeys : (context.map Prod.fst).Nodup)
    (hvalues : ∀ e ∈ context, contextValue e.2 = true)
    (recipient : Bytes) (draw : Draw) (data : Bytes) :
      (Document.obj (metadata cfg recipient draw context data)).keyed = true :=
  Document.keyed_of_get? (nodup_metadata _ _ _ _) (fun _ _ hx => keyed_of_plain (plain_metadata hkeys hvalues hx))

/-- Associated data determines the dictionary it was made of. -/
lemma get?_of_canonicalBytes {es fs : Document.Entries} (hes : (Document.obj es).keyed = true)
    (hfs : (Document.obj fs).keyed = true)
    (hplain : ∀ k x, Document.get? fs k = some x → Plain x) (h : canonicalBytes cfg es = canonicalBytes cfg fs)
    (k : String) :
    Document.get? es k = Document.get? fs k := by
  have hsame := get?_of_canonicalJson hes hfs (utf8Encode_inj h) k
  cases hx : Document.get? fs k with
  | none =>
    rw [hx, Option.map_none, Option.map_eq_none_iff] at hsame
    exact hsame
  | some x =>
    rw [hx, Option.map_some, Option.map_eq_some_iff] at hsame
    obtain ⟨y, hy, hyx⟩ := hsame
    rw [hy, sorted_eq_of_plain (hplain k x hx) hyx]

/-- One canonical text for two dictionaries that read the same. -/
lemma canonicalBytes_congr {es fs : Document.Entries} (hes : (es.map Prod.fst).Nodup) (hfs : (fs.map Prod.fst).Nodup)
    (h : ∀ k, Document.get? es k = Document.get? fs k) : canonicalBytes cfg es = canonicalBytes cfg fs := by
  unfold canonicalBytes canonicalJson
  rw [(Document.sorted_obj_eq_iff hes hfs).mpr (fun k => by rw [h])]

/-- The key, the nonce, the associated data, the plaintext and the sealed bytes of an encryption. -/
structure Seal where
  key : Bytes
  nonce : Bytes
  aad : Bytes
  data : Bytes
  bytes : Bytes × Bytes
  deriving DecidableEq

def sealOf (cfg : BundleConfig) (e : Encryption) (secret data : Bytes) : Seal :=
  let key := deriveKey cfg secret e.draw.salt e.context
  let aad := canonicalBytes cfg (metadata cfg e.recipient e.draw e.context data)
  ⟨key, e.draw.nonce, aad, data, cfg.gcmSeal key e.draw.nonce aad data⟩

/-- What `encrypt_bundle` found and left when it returns. -/
structure Encrypted (cfg : BundleConfig) (e : Encryption) (fs : Files) (manifest : Document.Entries) (fs' : Files)
    (data secret : Bytes) : Prop where
  context : validateContext e.context = .ok ()
  source : e.source = some data
  size : 0 < data.length ∧ data.length ≤ maxBundleBytes
  exchanged : cfg.exchange e.draw.ephemeral e.recipient = some secret
  manifest : manifest = manifestOf cfg (metadata cfg e.recipient e.draw e.context data) (sealOf cfg e secret data).bytes
  files : fs' = Function.update fs e.destination
    (some ((sealOf cfg e secret data).bytes.1 ++ (sealOf cfg e secret data).bytes.2))

lemma sealBytes_eq (key nonce aad data : Bytes) :
    sealBytes cfg key nonce aad data = cfg.gcmSeal key nonce aad data := by
  unfold sealBytes
  rw [flatten_reads (by decide)]

lemma encryptBundle_ok {e : Encryption} {fs fs' : Files} {manifest : Document.Entries}
    (h : e.encryptBundle cfg fs = (.ok manifest, fs')) :
    ∃ data secret, Encrypted cfg e fs manifest fs' data secret := by
  unfold Encryption.encryptBundle at h
  cases hprepare : e.prepare cfg fs with
  | error err =>
    rw [hprepare] at h
    cases h
  | ok prepared =>
    obtain ⟨data, sealed⟩ := prepared
    rw [hprepare] at h
    unfold Encryption.prepare at hprepare
    obtain ⟨_, hcontext, hprepare⟩ := bind_eq_ok.mp hprepare
    obtain ⟨source, hsource, hprepare⟩ := bind_eq_ok.mp hprepare
    obtain ⟨_, hsize, hprepare⟩ := bind_eq_ok.mp hprepare
    obtain ⟨_, _, hprepare⟩ := bind_eq_ok.mp hprepare
    obtain ⟨secret, hsecret, hprepare⟩ := bind_eq_ok.mp hprepare
    obtain ⟨_, _, hprepare⟩ := bind_eq_ok.mp hprepare
    rw [sealBytes_eq] at hprepare
    cases hprepare
    dsimp only at h
    rcases publish_spec fs (temporaryName_ne e.destination e.token)
        (.ok ((sealOf cfg e secret data).bytes.1 ++ (sealOf cfg e secret data).bytes.2)) with ⟨_, hwritten, _, _,
          hpublish⟩ | ⟨⟨err, hfail, _⟩, _⟩
    · cases hwritten
      unfold sealOf at hpublish
      rw [hpublish] at h
      cases h
      exact ⟨data, secret, hcontext, orRaise_eq_ok.mp hsource, not_not.mp (raiseIf_eq_ok.mp hsize),
        orRaise_eq_ok.mp hsecret, rfl, rfl⟩
    · unfold sealOf at hfail
      split at h
      · cases h
      · next hok =>
        rw [hok] at hfail
        cases hfail

/-- When nothing stands against it, `encrypt_bundle` returns. -/
lemma encryptBundle_of {e : Encryption} {fs : Files} {data secret : Bytes}
    (hcontext : validateContext e.context = .ok ())
    (hsource : e.source = some data) (hsize : 0 < data.length ∧ data.length ≤ maxBundleBytes)
    (hexchange : cfg.exchange e.draw.ephemeral e.recipient = some secret) (hparent : e.parent = .ok ())
    (hfree : fs e.destination = none) (htemp : fs (temporaryName e.destination e.token) = none) :
    e.encryptBundle cfg fs =
      (.ok (manifestOf cfg (metadata cfg e.recipient e.draw e.context data) (sealOf cfg e secret data).bytes),
        Function.update fs e.destination
          (some ((sealOf cfg e secret data).bytes.1 ++ (sealOf cfg e secret data).bytes.2))) := by
  have hprepare : e.prepare cfg fs = .ok (data, (sealOf cfg e secret data).bytes) := by
    unfold Encryption.prepare
    rw [hcontext, ok_bind, hsource, orRaise_some, ok_bind, raiseIf_neg (not_not.mpr hsize), ok_bind,
      raiseIf_neg (by rw [hfree]; decide), ok_bind,
      hexchange, orRaise_some, ok_bind, hparent, ok_bind, sealBytes_eq]
    rfl
  unfold Encryption.encryptBundle
  rw [hprepare]
  dsimp only
  rcases publish_spec fs (temporaryName_ne e.destination e.token)
      (.ok ((sealOf cfg e secret data).bytes.1 ++ (sealOf cfg e secret data).bytes.2)) with ⟨_, hwritten, -, -,
        hpublish⟩ | ⟨-, hnot⟩
  · cases hwritten
    rw [hpublish]
  · exact absurd ⟨htemp, hfree, _, rfl⟩ hnot

namespace Encrypted

variable {e : Encryption} {fs fs' : Files} {manifest : Document.Entries} {data secret : Bytes}

lemma values (h : Encrypted cfg e fs manifest fs' data secret) : ∀ x ∈ e.context, contextValue x.2 = true :=
  (validateContext_ok h.context).2.2.1

lemma lengths : (sealOf cfg e secret data).bytes.1.length = data.length ∧
    (sealOf cfg e secret data).bytes.2.length = 16 :=
  ⟨cfg.gcmSeal_length _ _ _ _, cfg.gcmSeal_tag _ _ _ _⟩

/-- The fields of the context are read from the manifest. -/
lemma get?_context (h : Encrypted cfg e fs manifest fs' data secret) {k : String} (hk : k ∉ ownFields) :
    Document.get? manifest k = Document.get? e.context k := by
  unfold ownFields transferFields at hk
  simp only [List.mem_append, List.mem_cons, List.not_mem_nil, or_false, not_or] at hk
  obtain ⟨⟨hformat, hfinger, hpublic, hsalt, hnonce, hsize, hsha⟩, hcsize, hcsha, -, -⟩ := hk
  have hsealed : Document.get? (sealedEntries cfg e.recipient e.draw data) k = none := by
    rw [Document.get?_eq_none_iff]
    unfold sealedEntries
    simp [hfinger, hpublic, hsalt, hnonce, hsize, hsha]
  have hfixed : Document.get? [("format", Document.str bundleFormat)] k = none := by
    rw [Document.get?_eq_none_iff]
    simpa using hformat
  rw [h.manifest, get?_manifestOf, if_neg hcsha, if_neg hcsize, get?_metadata e.context_keys, hsealed, hfixed,
    Option.none_or, Option.or_none]

lemma get?_sealed (h : Encrypted cfg e fs manifest fs' data secret) {k : String} {x : Document}
    (hk : Document.get? (sealedEntries cfg e.recipient e.draw data) k = some x) :
    Document.get? manifest k = some x := by
  have hkeys : k ≠ "ciphertext_sha256" ∧ k ≠ "ciphertext_size" := by
    have hmem := (Document.get?_eq_some_iff (nodup_sealedEntries _ _ _)).mp hk
    unfold sealedEntries at hmem
    simp only [List.mem_cons, Prod.mk.injEq, List.not_mem_nil, or_false] at hmem
    rcases hmem with ⟨rfl, -⟩ | ⟨rfl, -⟩ | ⟨rfl, -⟩ | ⟨rfl, -⟩ | ⟨rfl, -⟩ | ⟨rfl, -⟩ <;> decide
  rw [h.manifest, get?_manifestOf, if_neg hkeys.1, if_neg hkeys.2, get?_metadata e.context_keys, hk]
  rfl

end Encrypted

/-! ### Produced pairs are opened -/

/-- A context that the reader of the manifest takes. -/
structure Readable (cfg : BundleConfig) (context : Document.Entries) : Prop where
  keys : ∀ x ∈ context, x.1 ∈ manifestFields ∧ x.1 ∉ ownFields
  schema : ∀ x, Document.get? context "schema_version" = some x → validSchemaVersion cfg x = true
  payload : validatePayload context = .ok ()

/-- The manifest of a ciphertext, as produced or with the fields of a transfer. -/
structure Carries (cfg : BundleConfig) (produced : Document.Entries) (ciphertext : Bytes)
    (manifest : Document.Entries) : Prop where
  fields : ∀ k, k ≠ "byte_size" → k ≠ "artifact_sha256" → Document.get? manifest k = Document.get? produced k
  byteSize : ∀ x, Document.get? manifest "byte_size" = some x → x.eq (.int ciphertext.length) = true
  artifactSha256 : ∀ x, Document.get? manifest "artifact_sha256" = some x → x.eq (.str (cfg.sha256 ciphertext)) = true

section
variable {e : Encryption} {fs fs' : Files} {produced manifest : Document.Entries} {data secret ciphertext : Bytes}

lemma Readable.get?_own (h : Readable cfg e.context) {k : String} (hk : k ∈ ownFields) :
    Document.get? e.context k = none := by
  rw [Document.get?_eq_none_iff]
  intro hmem
  obtain ⟨x, hx, rfl⟩ := List.mem_map.mp hmem
  exact (h.keys x hx).2 hk

lemma digestField_ok {field message s : String} (h : Document.get? manifest field = some (.str s))
    (hs : isDigest s = true) :
    digestField manifest field message = .ok s := by
  unfold digestField
  rw [h, Option.bind_some, digest?, if_pos hs, orRaise_some]

lemma validatePayload_congr {es fs : Document.Entries}
    (h : ∀ k ∈ ["payload_format", "database_sha256", "inventory_sha256"], Document.get? es k = Document.get? fs k) :
    validatePayload es = validatePayload fs := by
  have hformat := h "payload_format" (by simp)
  have hdatabase := h "database_sha256" (by simp)
  have hinventory := h "inventory_sha256" (by simp)
  unfold validatePayload digestField
  simp only [List.any_cons, List.any_nil, hformat, hdatabase, hinventory]
  rfl

/-- Every field of a manifest that carries a pair. -/
structure Lookups (cfg : BundleConfig) (e : Encryption) (data ciphertext : Bytes) (manifest : Document.Entries) :
    Prop where
  context : ∀ k, k ∉ ownFields → Document.get? manifest k = Document.get? e.context k
  format : Document.get? manifest "format" = some (.str bundleFormat)
  fingerprint : Document.get? manifest "recipient_key_fingerprint" = some (.str (cfg.sha256 e.recipient))
  ephemeral : Document.get? manifest "ephemeral_public_key" = some (.str (encode (cfg.publicKey e.draw.ephemeral)))
  salt : Document.get? manifest "salt" = some (.str (encode e.draw.salt))
  nonce : Document.get? manifest "nonce" = some (.str (encode e.draw.nonce))
  plaintextSize : Document.get? manifest "plaintext_size" = some (.int data.length)
  plaintextSha256 : Document.get? manifest "plaintext_sha256" = some (.str (cfg.sha256 data))
  ciphertextSize : Document.get? manifest "ciphertext_size" = some (.int (data.length + 16 : Nat))
  ciphertextSha256 : Document.get? manifest "ciphertext_sha256" = some (.str (cfg.sha256 ciphertext))
  ciphertext_length : ciphertext.length = data.length + 16

/-- The bytes that an encryption writes. -/
def ciphertextOf (cfg : BundleConfig) (e : Encryption) (secret data : Bytes) : Bytes :=
  (sealOf cfg e secret data).bytes.1 ++ (sealOf cfg e secret data).bytes.2

lemma lookups (h : Encrypted cfg e fs produced fs' data secret) (hread : Readable cfg e.context)
    (hcarries : Carries cfg produced (ciphertextOf cfg e secret data) manifest) :
    Lookups cfg e data (ciphertextOf cfg e secret data) manifest := by
  obtain ⟨hbody, htag⟩ := @Encrypted.lengths cfg e data secret
  have hsealed : ∀ k x, k ≠ "byte_size" → k ≠ "artifact_sha256" →
      Document.get? (sealedEntries cfg e.recipient e.draw data) k = some x →
      Document.get? manifest k = some x := by
    intro k x hk hk' hx
    rw [hcarries.fields k hk hk']
    exact h.get?_sealed hx
  refine
    { context := ?_
      format := ?_
      fingerprint := hsealed _ _ (by decide) (by decide) rfl
      ephemeral := hsealed _ _ (by decide) (by decide) rfl
      salt := hsealed _ _ (by decide) (by decide) rfl
      nonce := hsealed _ _ (by decide) (by decide) rfl
      plaintextSize := hsealed _ _ (by decide) (by decide) rfl
      plaintextSha256 := hsealed _ _ (by decide) (by decide) rfl
      ciphertextSize := ?_
      ciphertextSha256 := ?_
      ciphertext_length := ?_ }
  · intro k hk
    rw [hcarries.fields k (by rintro rfl; exact hk (by decide)) (by rintro rfl; exact hk (by decide)),
      h.get?_context hk]
  · have hnone : Document.get? (sealedEntries cfg e.recipient e.draw data) "format" = none := by
      rw [Document.get?_eq_none_iff]
      unfold sealedEntries
      simp
    rw [hcarries.fields _ (by decide) (by decide), h.manifest, get?_manifestOf, if_neg (by decide), if_neg (by decide),
      get?_metadata e.context_keys, hnone, hread.get?_own (by decide)]
    rfl
  · rw [hcarries.fields _ (by decide) (by decide), h.manifest, get?_manifestOf, if_neg (by decide), if_pos rfl, hbody,
      htag]
  · rw [hcarries.fields _ (by decide) (by decide), h.manifest, get?_manifestOf, if_pos rfl]
    rfl
  · unfold ciphertextOf
    rw [List.length_append, hbody, htag]

/-- The three fields of the context that a manifest must carry. -/
lemma validateContext_filter (hl : Lookups cfg e data ciphertext manifest) (hnodup : (manifest.map Prod.fst).Nodup)
    (hcontext : validateContext e.context = .ok ()) :
    validateContext (manifest.filter (fun x => ["task_id", "target_id", "source_epoch"].contains x.1)) = .ok () := by
  obtain ⟨hrequired, hkeys, hvalues, -⟩ := validateContext_ok hcontext
  have hmem : ∀ x ∈ manifest.filter (fun x => ["task_id", "target_id", "source_epoch"].contains x.1),
      x ∈ e.context := by
    intro x hx
    obtain ⟨hx, hkey⟩ := List.mem_filter.mp hx
    have hown : x.1 ∉ ownFields := by
      rw [List.contains_iff_mem] at hkey
      simp only [List.mem_cons, List.not_mem_nil, or_false] at hkey
      rcases hkey with heq | heq | heq <;> rw [heq] <;> decide
    have hget := (Document.get?_eq_some_iff hnodup).mpr hx
    rw [hl.context _ hown] at hget
    exact (Document.get?_eq_some_iff e.context_keys).mp hget
  have hget : ∀ k, Document.get? (manifest.filter (fun x => ["task_id", "target_id", "source_epoch"].contains x.1)) k =
      if ["task_id", "target_id", "source_epoch"].contains k = true then Document.get? manifest k else none :=
    fun k => Document.get?_filter manifest (fun k => ["task_id", "target_id", "source_epoch"].contains k) k
  unfold validateContext
  rw [raiseIf_neg, ok_bind, raiseIf_neg]
  · rw [hget, if_neg (by decide)]
    simp
  · push Not
    refine ⟨?_, ?_, ?_⟩
    · apply ne_of_eq_of_ne _ (by decide : true ≠ false)
      rw [List.all_eq_true]
      intro k hk
      rw [hget, if_pos (List.contains_iff_mem.mpr hk), hl.context]
      · exact hrequired k hk
      · simp only [List.mem_cons, List.not_mem_nil, or_false] at hk
        rcases hk with heq | heq | heq <;> rw [heq] <;> decide
    · rw [Ne, Bool.not_eq_true, List.any_eq_false]
      intro x hx
      simpa using hkeys x (hmem x hx)
    · apply ne_of_eq_of_ne _ (by decide : true ≠ false)
      rw [List.all_eq_true]
      exact fun x hx => hvalues x (hmem x hx)

lemma eq_refl_str (s : String) : Document.eq (.str s) (.str s) = true := by
  simp [Document.eq]

/-- The checks pass on a manifest that carries the pair. -/
lemma validateManifest_ok (h : Encrypted cfg e fs produced fs' data secret) (hread : Readable cfg e.context)
    (hnodup : (manifest.map Prod.fst).Nodup)
    (hcarries : Carries cfg produced (ciphertextOf cfg e secret data) manifest) :
    validateManifest cfg manifest = .ok
      ⟨data.length, data.length + 16, cfg.sha256 e.recipient, cfg.sha256 data,
        cfg.sha256 (ciphertextOf cfg e secret data),
        cfg.publicKey e.draw.ephemeral, e.draw.salt, e.draw.nonce⟩ := by
  have hl := lookups h hread hcarries
  obtain ⟨hrequired, -, hvalues, hsubject⟩ := validateContext_ok h.context
  have hpayload : validatePayload manifest = .ok () := by
    rw [← hread.payload]
    apply validatePayload_congr
    intro k hk
    apply hl.context
    simp only [List.mem_cons, List.not_mem_nil, or_false] at hk
    rcases hk with rfl | rfl | rfl <;> decide
  have hsizes : validateSizes manifest = .ok (data.length, data.length + 16) := by
    unfold validateSizes
    rw [hl.plaintextSize, hl.ciphertextSize]
    dsimp only
    rw [if_pos]
    · rfl
    · refine ⟨by exact_mod_cast h.size.1, by exact_mod_cast h.size.2, by push_cast; rfl⟩
  have hoptional : validateOptional cfg manifest
      ⟨data.length, data.length + 16, cfg.sha256 e.recipient, cfg.sha256 data,
        cfg.sha256 (ciphertextOf cfg e secret data),
        cfg.publicKey e.draw.ephemeral, e.draw.salt, e.draw.nonce⟩ = .ok () := by
    unfold validateOptional
    rw [raiseIf_neg, ok_bind, raiseIf_neg, ok_bind, raiseIf_neg, ok_bind, raiseIf_neg, ok_bind, raiseIf_neg]
    · rw [Bool.not_eq_true, Option.any_eq_false]
      intro x hx
      rw [hl.context _ (by decide)] at hx
      simpa using hread.schema x hx
    · rw [hl.context _ (by decide)]
      simpa using hsubject
    · rw [Bool.not_eq_true, Option.any_eq_false]
      intro x hx
      rw [hl.context _ (by decide)] at hx
      have hvalue := hvalues _ ((Document.get?_eq_some_iff e.context_keys).mp hx)
      cases x with
      | str s =>
        rw [contextValue, Bool.and_eq_true] at hvalue
        simpa [nonemptyText] using hvalue.1
      | _ => cases hvalue
    · rw [Bool.not_eq_true, Option.any_eq_false]
      intro x hx
      simpa using hcarries.artifactSha256 x hx
    · rw [Bool.not_eq_true, Option.any_eq_false]
      intro x hx
      rw [← hl.ciphertext_length]
      simpa using hcarries.byteSize x hx
  -- the checks in their order
  unfold validateManifest
  rw [raiseIf_neg, ok_bind, raiseIf_neg, ok_bind, raiseIf_neg, ok_bind, hpayload, ok_bind,
    validateContext_filter hl hnodup h.context, ok_bind,
    hsizes, ok_bind]
  dsimp only
  rw [digestField_ok hl.fingerprint (cfg.sha256_digest _), ok_bind,
    digestField_ok hl.plaintextSha256 (cfg.sha256_digest _), ok_bind,
    digestField_ok hl.ciphertextSha256 (cfg.sha256_digest _), ok_bind, hl.ephemeral, hl.salt, hl.nonce,
      Option.getD_some, Option.getD_some,
    Option.getD_some, decode_encode _ (cfg.publicKey_length _) (by decide), ok_bind,
      decode_encode _ e.draw.salt_length (by decide), ok_bind,
    decode_encode _ e.draw.nonce_length (by decide), ok_bind, hoptional, ok_bind]
  · rw [hl.format, Option.any_some, eq_refl_str]
    decide
  · rw [Bool.not_eq_false, List.all_eq_true]
    intro x hx
    rw [List.contains_iff_mem]
    by_cases hown : x.1 ∈ ownFields
    · have hall : ∀ k ∈ ownFields, k ∈ manifestFields := by decide
      exact hall _ hown
    · have hget := (Document.get?_eq_some_iff hnodup).mpr hx
      rw [hl.context _ hown] at hget
      exact (hread.keys _ ((Document.get?_eq_some_iff e.context_keys).mp hget)).1
  · rw [Bool.not_eq_false, List.all_eq_true]
    intro k hk
    unfold requiredManifestFields at hk
    simp only [List.mem_cons, List.not_mem_nil, or_false] at hk
    rcases hk with rfl | rfl | rfl | rfl | rfl | rfl | rfl | rfl | rfl | rfl | rfl | rfl
    · rw [hl.format]; rfl
    · rw [hl.context _ (by decide)]; exact hrequired _ (by simp)
    · rw [hl.context _ (by decide)]; exact hrequired _ (by simp)
    · rw [hl.context _ (by decide)]; exact hrequired _ (by simp)
    · rw [hl.fingerprint]; rfl
    · rw [hl.ephemeral]; rfl
    · rw [hl.salt]; rfl
    · rw [hl.nonce]; rfl
    · rw [hl.plaintextSize]; rfl
    · rw [hl.plaintextSha256]; rfl
    · rw [hl.ciphertextSize]; rfl
    · rw [hl.ciphertextSha256]; rfl

/-- The reader rebuilds the context of the key. -/
lemma contextOf_eq (hl : Lookups cfg e data ciphertext manifest) (hread : Readable cfg e.context)
    (hnodup : (manifest.map Prod.fst).Nodup)
    (hvalues : ∀ x ∈ e.context, contextValue x.2 = true) :
    canonicalBytes cfg (contextOf cfg manifest) = canonicalBytes cfg e.context := by
  have hfilter := fun k => Document.get?_filter manifest (fun k => !(ownFields.contains k)) k
  apply canonicalBytes_congr _ e.context_keys
  · intro k
    unfold contextOf
    rw [Document.get?_map (manifest.filter (fun x => !(ownFields.contains x.1))) (fun x => .str (str cfg x)), hfilter]
    by_cases hown : k ∈ ownFields
    · rw [if_neg (by simpa using hown), hread.get?_own hown]
      rfl
    · rw [if_pos (by simpa using hown), hl.context k hown]
      cases hx : Document.get? e.context k with
      | none => rfl
      | some x =>
        have hvalue := hvalues _ ((Document.get?_eq_some_iff e.context_keys).mp hx)
        cases x with
        | str s => rfl
        | _ => cases hvalue
  · unfold contextOf
    rw [List.map_map]
    exact hnodup.sublist (List.filter_sublist.map Prod.fst)

/-- The reader rebuilds the associated data. -/
lemma metadataOf_eq (h : Encrypted cfg e fs produced fs' data secret) (hread : Readable cfg e.context)
    (hnodup : (manifest.map Prod.fst).Nodup)
    (hcarries : Carries cfg produced (ciphertextOf cfg e secret data) manifest) :
    canonicalBytes cfg (metadataOf manifest) = canonicalBytes cfg (metadata cfg e.recipient e.draw e.context data) := by
  have hfilter := fun k => Document.get?_filter manifest (fun k => !(transferFields.contains k)) k
  apply canonicalBytes_congr (hnodup.sublist (List.filter_sublist.map Prod.fst)) (nodup_metadata _ _ _ _)
  intro k
  rw [hfilter]
  by_cases htransfer : k ∈ transferFields
  · have hsealed : ∀ k ∈ transferFields, k ∉ (sealedEntries cfg e.recipient e.draw data).map Prod.fst := by
      unfold sealedEntries
      simp [transferFields]
    have hown : ∀ k ∈ transferFields, k ∈ ownFields ∧ k ≠ "format" := by decide
    have hfixed : Document.get? [("format", Document.str bundleFormat)] k = none := by
      rw [Document.get?_eq_none_iff]
      simpa using (hown k htransfer).2
    rw [if_neg (by simpa using htransfer), get?_metadata e.context_keys,
      Document.get?_eq_none_iff.mpr (hsealed k htransfer),
      hread.get?_own (hown k htransfer).1, hfixed]
    rfl
  · have hne : k ≠ "byte_size" ∧ k ≠ "artifact_sha256" ∧ k ≠ "ciphertext_sha256" ∧ k ≠ "ciphertext_size" := by
      unfold transferFields at htransfer
      simp only [List.mem_cons, List.not_mem_nil, or_false, not_or] at htransfer
      exact ⟨htransfer.2.2.1, htransfer.2.2.2, htransfer.2.1, htransfer.1⟩
    rw [if_pos (by simpa using htransfer), hcarries.fields k hne.1 hne.2.1, h.manifest, get?_manifestOf,
      if_neg hne.2.2.1, if_neg hne.2.2.2]

/-- The produced bytes are opened. -/
lemma openBytes_ok (v : Values) (hsize : v.ciphertextSize = data.length + 16) (hplain : v.plaintextSize = data.length)
    (hsha : v.plaintextSha256 = cfg.sha256 data)
    (hcsha : v.ciphertextSha256 = cfg.sha256 (ciphertextOf cfg e secret data)) :
    openBytes cfg (sealOf cfg e secret data).key e.draw.nonce (sealOf cfg e secret data).aad v
      (ciphertextOf cfg e secret data) = .ok data := by
  obtain ⟨hbody, htag⟩ := @Encrypted.lengths cfg e data secret
  have hremaining : v.ciphertextSize - 16 = (sealOf cfg e secret data).bytes.1.length := by
    rw [hsize, hbody]
    omega
  have hopen : cfg.gcmOpen (sealOf cfg e secret data).key e.draw.nonce (sealOf cfg e secret data).aad
      ((sealOf cfg e secret data).bytes.1, (sealOf cfg e secret data).bytes.2) = some data := cfg.gcmOpen_seal _ _ _ _
  have hend : (ciphertextOf cfg e secret data).drop ((sealOf cfg e secret data).bytes.1.length + 16) = [] := by
    apply List.drop_eq_nil_of_le
    unfold ciphertextOf
    rw [List.length_append, htag]
  have htake : (ciphertextOf cfg e secret data).take (sealOf cfg e secret data).bytes.1.length =
      (sealOf cfg e secret data).bytes.1 :=
    List.take_left
  have hdrop : (ciphertextOf cfg e secret data).drop (sealOf cfg e secret data).bytes.1.length =
      (sealOf cfg e secret data).bytes.2 :=
    List.drop_left
  unfold openBytes
  dsimp only
  rw [hremaining, flatten_reads (by decide), htake, hdrop, List.take_of_length_le htag.le, hend,
    raiseIf_neg (lt_irrefl _), ok_bind, raiseIf_neg (by rw [htag]; simp), ok_bind, hopen, orRaise_some, ok_bind,
      raiseIf_neg (by rw [hcsha]; exact not_not.mpr rfl), ok_bind,
    raiseIf_neg (by rw [hplain, hsha]; simp), ok_bind]

/-- A call of `decrypt_bundle` on a produced pair. -/
lemma decryptBundle_ok (h : Encrypted cfg e fs produced fs' data secret) (hread : Readable cfg e.context)
    (d : Decryption) (g : Files) (hsource : d.source = some (ciphertextOf cfg e secret data))
    (hcarries : Carries cfg produced (ciphertextOf cfg e secret data) d.manifest)
    (hexpected : validateContext d.expectedContext = .ok ())
    (hmatch : ∀ x ∈ d.expectedContext, Document.get? d.manifest x.1 = some x.2)
    (hrecipient : e.recipient = cfg.publicKey d.recipient) (hparent : d.parent = .ok ())
    (hfree : g d.destination = none) (htemp : g (temporaryName d.destination d.token) = none) :
    d.decryptBundle cfg g = (.ok (), Function.update g d.destination (some data)) := by
  have hnodup := (Document.keyed_obj.mp d.manifest_keyed).1
  have hl := lookups h hread hcarries
  have hsecret : cfg.exchange d.recipient (cfg.publicKey e.draw.ephemeral) = some secret := by
    rw [cfg.exchange_comm, ← hrecipient, h.exchanged]
  have hvalues := (validateContext_ok hexpected).2.2.1
  have hprepare : d.prepare cfg g = .ok
      (⟨data.length, data.length + 16, cfg.sha256 e.recipient, cfg.sha256 data,
        cfg.sha256 (ciphertextOf cfg e secret data), cfg.publicKey e.draw.ephemeral, e.draw.salt, e.draw.nonce⟩,
        deriveKey cfg secret e.draw.salt (contextOf cfg d.manifest), ciphertextOf cfg e secret data) := by
    unfold Decryption.prepare
    rw [hexpected, ok_bind, validateManifest_ok h hread hnodup hcarries, ok_bind, raiseIf_neg, ok_bind, raiseIf_neg,
      ok_bind, hsource, orRaise_some, ok_bind, raiseIf_neg, ok_bind, raiseIf_neg, ok_bind]
    · dsimp only
      rw [hsecret, orRaise_some, ok_bind, hparent, ok_bind]
    · exact not_not.mpr hl.ciphertext_length
    · rw [hfree]
      decide
    · exact not_not.mpr (by rw [hrecipient])
    · rw [Bool.not_eq_true, List.any_eq_false]
      intro x hx
      rw [hmatch x hx, Option.any_some]
      have hvalue := hvalues x hx
      cases hx2 : x.2 with
      | str s => rw [eq_refl_str]; decide
      | _ => rw [hx2] at hvalue; cases hvalue
  have hkey : deriveKey cfg secret e.draw.salt (contextOf cfg d.manifest) = (sealOf cfg e secret data).key := by
    unfold deriveKey
    rw [contextOf_eq hl hread hnodup h.values]
    rfl
  have hopen : openBytes cfg (deriveKey cfg secret e.draw.salt (contextOf cfg d.manifest)) e.draw.nonce
      (canonicalBytes cfg (metadataOf d.manifest)) ⟨data.length, data.length + 16, cfg.sha256 e.recipient,
        cfg.sha256 data,
        cfg.sha256 (ciphertextOf cfg e secret data), cfg.publicKey e.draw.ephemeral, e.draw.salt, e.draw.nonce⟩
      (ciphertextOf cfg e secret data) = .ok data := by
    rw [hkey, metadataOf_eq h hread hnodup hcarries]
    exact openBytes_ok _ rfl rfl rfl rfl
  unfold Decryption.decryptBundle
  rw [hprepare]
  dsimp only
  rw [hopen]
  rcases publish_spec g (temporaryName_ne d.destination d.token) (.ok data) with ⟨_, hdata, -, -, hpublish⟩ | ⟨-, hnot⟩
  · cases hdata
    exact hpublish
  · exact absurd ⟨htemp, hfree, data, rfl⟩ hnot

end

/-! ### What is opened was produced -/

/-- The parts of a ciphertext as the call reads them. -/
def bodyAndTag (v : Values) (source : Bytes) : Bytes × Bytes :=
  (source.take (v.ciphertextSize - 16), source.drop (v.ciphertextSize - 16))

/-- AES-GCM is authentic where this call uses it: at the key, the nonce and the associated data that the call derives,
only what one of the encryptions sealed there opens. -/
def Authentic (cfg : BundleConfig) (runs : List Encryption) (d : Decryption) (g : Files) : Prop :=
  ∀ v key source data, d.prepare cfg g = .ok (v, key, source) →
    cfg.gcmOpen key v.nonce (canonicalBytes cfg (metadataOf d.manifest)) (bodyAndTag v source) = some data →
    ∃ run ∈ runs, ∃ plain secret, run.source = some plain ∧
      cfg.exchange run.draw.ephemeral run.recipient = some secret ∧
      (sealOf cfg run secret plain).key = key ∧ (sealOf cfg run secret plain).nonce = v.nonce ∧
      (sealOf cfg run secret plain).aad = canonicalBytes cfg (metadataOf d.manifest) ∧
      (sealOf cfg run secret plain).bytes = bodyAndTag v source

/-- What the checks of a manifest establish about the fields of a transfer. -/
lemma validateManifest_reads {manifest : Document.Entries} {v : Values} (h : validateManifest cfg manifest = .ok v) :
    Document.get? manifest "ciphertext_size" = some (.int v.ciphertextSize) ∧
    Document.get? manifest "ciphertext_sha256" = some (.str v.ciphertextSha256) ∧ 16 < v.ciphertextSize ∧
    (∀ x, Document.get? manifest "byte_size" = some x → x.eq (.int v.ciphertextSize) = true) ∧
    ∀ x, Document.get? manifest "artifact_sha256" = some x → x.eq (.str v.ciphertextSha256) = true := by
  unfold validateManifest at h
  obtain ⟨_, _, h⟩ := bind_eq_ok.mp h
  obtain ⟨_, _, h⟩ := bind_eq_ok.mp h
  obtain ⟨_, _, h⟩ := bind_eq_ok.mp h
  obtain ⟨_, _, h⟩ := bind_eq_ok.mp h
  obtain ⟨_, _, h⟩ := bind_eq_ok.mp h
  obtain ⟨⟨psize, csize⟩, hsizes, h⟩ := bind_eq_ok.mp h
  obtain ⟨fingerprint, _, h⟩ := bind_eq_ok.mp h
  obtain ⟨psha, _, h⟩ := bind_eq_ok.mp h
  obtain ⟨csha, hcsha, h⟩ := bind_eq_ok.mp h
  obtain ⟨_, _, h⟩ := bind_eq_ok.mp h
  obtain ⟨_, _, h⟩ := bind_eq_ok.mp h
  obtain ⟨_, _, h⟩ := bind_eq_ok.mp h
  obtain ⟨_, hoptional, h⟩ := bind_eq_ok.mp h
  cases h
  unfold validateOptional at hoptional
  obtain ⟨_, hbyte, hoptional⟩ := bind_eq_ok.mp hoptional
  obtain ⟨_, hartifact, _⟩ := bind_eq_ok.mp hoptional
  have hbyte := raiseIf_eq_ok.mp hbyte
  have hartifact := raiseIf_eq_ok.mp hartifact
  rw [Bool.not_eq_true, Option.any_eq_false] at hbyte hartifact
  have hsize : Document.get? manifest "ciphertext_size" = some (.int csize) ∧ 16 < csize := by
    unfold validateSizes at hsizes
    split at hsizes
    · next p c _ hc =>
      split at hsizes
      · next hcond =>
        cases hsizes
        rw [hc, Int.toNat_of_nonneg (by omega)]
        exact ⟨rfl, by omega⟩
      · cases hsizes
    · cases hsizes
  have hsha : Document.get? manifest "ciphertext_sha256" = some (.str csha) := by
    unfold digestField at hcsha
    obtain ⟨x, hx, hdigest⟩ := Option.bind_eq_some_iff.mp (orRaise_eq_ok.mp hcsha)
    unfold digest? at hdigest
    split at hdigest
    · next s =>
      split at hdigest
      · cases hdigest
        exact hx
      · cases hdigest
    · cases hdigest
  exact ⟨hsize.1, hsha, hsize.2, fun x hx => by simpa using hbyte x hx, fun x hx => by simpa using hartifact x hx⟩

lemma eq_str_iff {x : Document} {s : String} : x.eq (.str s) = true ↔ x = .str s := by
  cases x with
  | str t => simp [Document.eq]
  | _ => simp [Document.eq, Document.number?]

lemma openBytes_eq_ok {key nonce aad source plaintext : Bytes} {v : Values} (hlen : source.length = v.ciphertextSize)
    (h : openBytes cfg key nonce aad v source = .ok plaintext) :
    cfg.gcmOpen key nonce aad (bodyAndTag v source) = some plaintext ∧ cfg.sha256 source = v.ciphertextSha256 := by
  unfold openBytes at h
  dsimp only at h
  rw [flatten_reads (by decide)] at h
  obtain ⟨_, _, h⟩ := bind_eq_ok.mp h
  obtain ⟨_, _, h⟩ := bind_eq_ok.mp h
  obtain ⟨data, hopen, h⟩ := bind_eq_ok.mp h
  obtain ⟨_, hdigest, h⟩ := bind_eq_ok.mp h
  obtain ⟨_, _, h⟩ := bind_eq_ok.mp h
  cases h
  have htag : (source.drop (v.ciphertextSize - 16)).take 16 = source.drop (v.ciphertextSize - 16) := by
    apply List.take_of_length_le
    rw [List.length_drop]
    omega
  have hdigest := raiseIf_eq_ok.mp hdigest
  rw [htag] at hopen hdigest
  rw [List.take_append_drop] at hdigest
  exact ⟨orRaise_eq_ok.mp hopen, not_not.mp hdigest⟩

/-- What `decrypt_bundle` has checked before it opens the files. -/
structure Prepared (cfg : BundleConfig) (d : Decryption) (g : Files) (v : Values) (source : Bytes) : Prop where
  context : validateContext d.expectedContext = .ok ()
  values : validateManifest cfg d.manifest = .ok v
  expected : ∀ x ∈ d.expectedContext, Document.get? d.manifest x.1 = some x.2
  found : d.source = some source
  length : source.length = v.ciphertextSize
  free : g d.destination = none

lemma prepare_ok {d : Decryption} {g : Files} {v : Values} {key source : Bytes}
    (h : d.prepare cfg g = .ok (v, key, source)) :
    ∃ secret, key = deriveKey cfg secret v.salt (contextOf cfg d.manifest) ∧ Prepared cfg d g v source := by
  unfold Decryption.prepare at h
  obtain ⟨_, hcontext, h⟩ := bind_eq_ok.mp h
  obtain ⟨v', hvalues, h⟩ := bind_eq_ok.mp h
  obtain ⟨_, hexpected, h⟩ := bind_eq_ok.mp h
  obtain ⟨_, _, h⟩ := bind_eq_ok.mp h
  obtain ⟨source', hsource, h⟩ := bind_eq_ok.mp h
  obtain ⟨_, hfree, h⟩ := bind_eq_ok.mp h
  obtain ⟨_, hlength, h⟩ := bind_eq_ok.mp h
  obtain ⟨secret, _, h⟩ := bind_eq_ok.mp h
  obtain ⟨_, _, h⟩ := bind_eq_ok.mp h
  cases h
  have hlength := not_not.mp (raiseIf_eq_ok.mp hlength)
  have hexpected := raiseIf_eq_ok.mp hexpected
  rw [Bool.not_eq_true, List.any_eq_false] at hexpected
  refine ⟨secret, rfl, hcontext, hvalues, ?_, orRaise_eq_ok.mp hsource, hlength, ?_⟩
  · intro x hx
    have hmatch : (Document.get? d.manifest x.1).any (fun y => y.eq x.2) = true := by simpa using hexpected x hx
    obtain ⟨y, hy, heq⟩ := (Option.any_eq_true _ _).mp hmatch
    have hvalue := (validateContext_ok hcontext).2.2.1 x hx
    cases hx2 : x.2 with
    | str s =>
      rw [hx2] at heq
      rw [hy, eq_str_iff.mp heq]
    | _ => rw [hx2] at hvalue; cases hvalue
  · have hnone := raiseIf_eq_ok.mp hfree
    rwa [Bool.not_eq_true, Option.isSome_eq_false_iff, Option.isNone_iff_eq_none] at hnone

/-- What `decrypt_bundle` found when it returns. -/
structure Opened (cfg : BundleConfig) (d : Decryption) (g : Files) (v : Values) (secret source plaintext : Bytes) : Prop
    extends Prepared cfg d g v source where
  digest : cfg.sha256 source = v.ciphertextSha256
  prepared : d.prepare cfg g = .ok (v, deriveKey cfg secret v.salt (contextOf cfg d.manifest), source)
  opened : cfg.gcmOpen (deriveKey cfg secret v.salt (contextOf cfg d.manifest)) v.nonce
    (canonicalBytes cfg (metadataOf d.manifest)) (bodyAndTag v source) = some plaintext
  files : d.decryptBundle cfg g = (.ok (), Function.update g d.destination (some plaintext))

/-- `decrypt_bundle` publishes a plaintext, or it raises and leaves everything but the temporary name as it was. -/
theorem decryptBundle_cases (d : Decryption) (g : Files) :
    (∃ v secret source plaintext, Opened cfg d g v secret source plaintext) ∨
      (∃ e, (d.decryptBundle cfg g).1 = .error e) ∧
        ∀ name, name ≠ temporaryName d.destination d.token → (d.decryptBundle cfg g).2 name = g name := by
  cases hprepare : d.prepare cfg g with
  | error err =>
    right
    unfold Decryption.decryptBundle
    rw [hprepare]
    exact ⟨⟨err, rfl⟩, fun _ _ => rfl⟩
  | ok prepared =>
    obtain ⟨v, key, source⟩ := prepared
    have hcall : d.decryptBundle cfg g = publish g (temporaryName d.destination d.token) d.destination
        (openBytes cfg key v.nonce (canonicalBytes cfg (metadataOf d.manifest)) v source) := by
      unfold Decryption.decryptBundle
      rw [hprepare]
    rcases publish_spec g (temporaryName_ne d.destination d.token)
        (openBytes cfg key v.nonce (canonicalBytes cfg (metadataOf d.manifest)) v source) with
      ⟨data, hdata, -, -, hpublish⟩ | ⟨⟨err, herr, hfiles⟩, -⟩
    · left
      obtain ⟨secret, rfl, hp⟩ := prepare_ok hprepare
      obtain ⟨hopen, hdigest⟩ := openBytes_eq_ok hp.length hdata
      exact ⟨v, secret, source, data, hp, hdigest, hprepare, hopen, hcall.trans hpublish⟩
    · right
      rw [hcall]
      refine ⟨⟨err, herr⟩, fun name hname => ?_⟩
      rw [hfiles, Function.update_of_ne hname]

/-- What opens was produced, and the manifest carries it. -/
lemma Opened.produced {d : Decryption} {g : Files} {v : Values} {secret source plaintext : Bytes}
    (h : Opened cfg d g v secret source plaintext) {runs : List Encryption} (hauthentic : Authentic cfg runs d g)
    (hruns : ∀ run ∈ runs, ∃ fs manifest fs', run.encryptBundle cfg fs = (.ok manifest, fs')) :
    ∃ run ∈ runs, ∃ fs manifest fs', run.encryptBundle cfg fs = (.ok manifest, fs') ∧ run.source = some plaintext ∧
      fs' run.destination = some source ∧ Carries cfg manifest source d.manifest := by
  obtain ⟨hcsize, hcsha, hpos, hbyte, hartifact⟩ := validateManifest_reads h.values
  obtain ⟨run, hrun, plain, runSecret, hplain, hsecret, hkey, hnonce, haad, hbytes⟩ :=
    hauthentic _ _ _ _ h.prepared h.opened
  obtain ⟨fs, manifest, fs', hencrypt⟩ := hruns run hrun
  obtain ⟨data, secret', henc⟩ := encryptBundle_ok hencrypt
  have hsame : plain = data := Option.some.inj (hplain.symm.trans henc.source)
  have hsame' : runSecret = secret' := Option.some.inj (hsecret.symm.trans henc.exchanged)
  subst hsame hsame'
  have hdata : plain = plaintext := by
    have hopened := h.opened
    rw [← hkey, ← hnonce, ← haad, ← hbytes] at hopened
    exact Option.some.inj ((cfg.gcmOpen_seal _ _ _ _).symm.trans hopened)
  have hcipher : (sealOf cfg run runSecret plain).bytes.1 ++ (sealOf cfg run runSecret plain).bytes.2 = source := by
    rw [hbytes]
    exact List.take_append_drop _ _
  have hlength : (sealOf cfg run runSecret plain).bytes.1.length + (sealOf cfg run runSecret plain).bytes.2.length =
      source.length := by
    rw [← List.length_append, hcipher]
  have hnodup := (Document.keyed_obj.mp d.manifest_keyed)
  have hkeyed : (Document.obj (metadataOf d.manifest)).keyed = true := by
    refine Document.keyed_obj.mpr ⟨hnodup.1.sublist (List.filter_sublist.map Prod.fst),
      fun x hx => hnodup.2 x (List.mem_filter.mp hx).1⟩
  have hread := get?_of_canonicalBytes hkeyed (keyed_metadata run.context_keys henc.values run.recipient run.draw plain)
    (fun k x hx => plain_metadata run.context_keys henc.values hx) haad.symm
  refine ⟨run, hrun, fs, manifest, fs', hencrypt, hdata ▸ hplain, ?_, ?_⟩
  · rw [henc.files, Function.update_self, hcipher]
  · refine ⟨fun k hk hk' => ?_, fun x hx => ?_, fun x hx => ?_⟩
    · rw [henc.manifest, get?_manifestOf]
      by_cases hsha : k = "ciphertext_sha256"
      · rw [if_pos hsha, hsha, hcsha, hcipher, h.digest]
      by_cases hsize : k = "ciphertext_size"
      · rw [if_neg hsha, if_pos hsize, hsize, hcsize, hlength, h.length]
      rw [if_neg hsha, if_neg hsize, ← hread k]
      unfold metadataOf
      rw [Document.get?_filter d.manifest (fun k => !(transferFields.contains k)) k, if_pos]
      simp [transferFields, hk, hk', hsha, hsize]
    · rw [h.length]
      exact hbyte x hx
    · rw [h.digest]
      exact hartifact x hx

/-- A readable context's pair is opened for its own context and every part of it, with or without the fields of a
transfer; and what is opened is the pair of one of the encryptions up to these fields, everything else is refused
without creating the destination. -/
theorem bundle_faithful (cfg : BundleConfig) :
    (∀ (e : Encryption) (fs fs' : Files) (produced : Document.Entries), e.encryptBundle cfg fs = (.ok produced, fs') →
      Readable cfg e.context →
      ∃ data ciphertext, e.source = some data ∧ fs' e.destination = some ciphertext ∧
      Carries cfg produced ciphertext produced ∧
        validateContext e.context = .ok () ∧ (∀ x ∈ e.context, Document.get? produced x.1 = some x.2) ∧
        ∀ (d : Decryption) (g : Files), d.source = some ciphertext → Carries cfg produced ciphertext d.manifest →
          validateContext d.expectedContext = .ok () →
            (∀ x ∈ d.expectedContext, Document.get? d.manifest x.1 = some x.2) →
          e.recipient = cfg.publicKey d.recipient → d.parent = .ok () → g d.destination = none →
          g (temporaryName d.destination d.token) = none →
          d.decryptBundle cfg g = (.ok (), Function.update g d.destination (some data))) ∧
    ∀ (runs : List Encryption) (d : Decryption) (g : Files),
      (∀ run ∈ runs, ∃ fs manifest fs', run.encryptBundle cfg fs = (.ok manifest, fs')) →
      Authentic cfg runs d g →
      (∃ run ∈ runs, ∃ fs produced fs' data ciphertext, run.encryptBundle cfg fs = (.ok produced, fs') ∧
        run.source = some data ∧ fs' run.destination = some ciphertext ∧ d.source = some ciphertext ∧
        Carries cfg produced ciphertext d.manifest ∧
        (∀ x ∈ d.expectedContext, Document.get? d.manifest x.1 = some x.2) ∧ g d.destination = none ∧
        d.decryptBundle cfg g = (.ok (), Function.update g d.destination (some data))) ∨
      (∃ err, (d.decryptBundle cfg g).1 = .error err) ∧
        ∀ name, name ≠ temporaryName d.destination d.token → (d.decryptBundle cfg g).2 name = g name := by
  constructor
  · intro e fs fs' produced hencrypt hread
    obtain ⟨data, secret, h⟩ := encryptBundle_ok hencrypt
    have hown : ∀ k ∈ ["byte_size", "artifact_sha256"], Document.get? produced k = none := by
      intro k hk
      have htransfer : k ∈ ownFields ∧ k ≠ "format" ∧ k ≠ "ciphertext_sha256" ∧ k ≠ "ciphertext_size" := by
        simp only [List.mem_cons, List.not_mem_nil, or_false] at hk
        rcases hk with rfl | rfl <;> decide
      have hsealed : Document.get? (sealedEntries cfg e.recipient e.draw data) k = none := by
        rw [Document.get?_eq_none_iff]
        unfold sealedEntries
        simp only [List.mem_cons, List.not_mem_nil, or_false] at hk
        rcases hk with rfl | rfl <;> simp
      have hfixed : Document.get? [("format", Document.str bundleFormat)] k = none := by
        rw [Document.get?_eq_none_iff]
        simpa using htransfer.2.1
      rw [h.manifest, get?_manifestOf, if_neg htransfer.2.2.1, if_neg htransfer.2.2.2, get?_metadata e.context_keys,
        hsealed, hread.get?_own htransfer.1, hfixed]
      rfl
    refine ⟨data, ciphertextOf cfg e secret data, h.source, ?_, ⟨fun _ _ _ => rfl, fun x hx => ?_, fun x hx => ?_⟩,
      h.context, ?_, ?_⟩
    · rw [h.files, Function.update_self]
      rfl
    · rw [hown _ (by simp)] at hx
      cases hx
    · rw [hown _ (by simp)] at hx
      cases hx
    · intro x hx
      rw [h.get?_context (hread.keys x hx).2]
      exact (Document.get?_eq_some_iff e.context_keys).mpr hx
    · intro d g hsource hcarries hexpected hmatch hrecipient hparent hfree htemp
      exact decryptBundle_ok h hread d g hsource hcarries hexpected hmatch hrecipient hparent hfree htemp
  · intro runs d g hruns hauthentic
    rcases @decryptBundle_cases cfg d g with ⟨v, secret, source, plaintext, hopened⟩ | hrefused
    · left
      obtain ⟨run, hrun, fs, produced, fs', hencrypt, hplain, hfile, hcarries⟩ := hopened.produced hauthentic hruns
      exact ⟨run, hrun, fs, produced, fs', plaintext, source, hencrypt, hplain, hfile, hopened.found, hcarries,
        hopened.expected, hopened.free, hopened.files⟩
    · right
      exact hrefused

/-! ### One bundle -/

def ephemeralPublic : Bytes :=
  [164, 224, 146, 146, 182, 81, 194, 120, 185, 119, 44, 86, 159, 95, 169, 187, 19, 217, 6, 180, 106, 182, 140, 157,
    249, 220, 43, 68, 9, 248, 162, 9]

def recipientPublic : Bytes :=
  [206, 141, 58, 209, 204, 182, 51, 236, 123, 112, 193, 120, 20, 165, 199, 110, 205, 2, 150, 133, 5, 13, 52, 71, 69,
    186, 5, 135, 14, 88, 125, 89]

def sharedSecret : Bytes :=
  [46, 215, 106, 181, 73, 177, 231, 60, 3, 30, 180, 156, 148, 72, 240, 121, 138, 234, 129, 182, 152, 39, 154, 12, 61,
    195, 228, 159, 191, 196, 185, 83]

def bundleKey : Bytes :=
  [143, 246, 54, 110, 49, 66, 232, 220, 44, 132, 32, 225, 239, 146, 245, 88, 37, 182, 246, 255, 48, 35, 129, 177, 116,
    17, 183, 203, 24, 131, 91, 124]

def bundleNonce : Bytes := List.replicate 12 4

def bundleBytes : Bytes × Bytes := ([115], [154, 157, 47, 16, 87, 18, 211, 186, 147, 23, 66, 255, 22, 83, 120, 243])

/-- Stands for a hash of the bytes at all other inputs. -/
def checksum (data : Bytes) : Nat := Digest.checksum (data.map UInt8.toNat)

def checksumBytes (n : Nat) (data : Bytes) : Bytes :=
  (List.range n).map (fun i => UInt8.ofNat (checksum data / 256 ^ i))

def sampleSha256 (data : Bytes) : String :=
  if data = recipientPublic then "cfa570c653bd212b10a9cb551fd7a1b4789855ee17e99ef2b3a2037feb337a08"
  else if data = [7] then "ca358758f6d27e6cf45272937977a748fd88391db679ceda7dc7bf1f005ee879"
  else if data = bundleBytes.1 ++ bundleBytes.2 then "3eb6e6bb991aefcf9bb9c566ecfeb9fe171a2c9c80c9eb5e37d3a3cbd51729dd"
  else Digest.hex (checksum data)

lemma sampleSha256_digest (data : Bytes) : isDigest (sampleSha256 data) = true := by
  unfold sampleSha256
  split
  · decide +kernel
  · split
    · decide +kernel
    · split
      · decide +kernel
      · unfold isDigest
        rw [Digest.hex_length, Digest.hex_all]
        rfl

def samplePublicKey (key : Bytes) : Bytes :=
  if key = List.replicate 32 1 then ephemeralPublic else if key = List.replicate 32 2 then recipientPublic
    else List.replicate 32 0

lemma samplePublicKey_eq_recipient {key : Bytes} : samplePublicKey key = recipientPublic ↔
    key = List.replicate 32 2 := by
  unfold samplePublicKey
  split
  · next h =>
    subst h
    decide +kernel
  · split
    · next h => simp [h]
    · next h =>
      constructor
      · intro heq
        exact absurd heq (by decide +kernel)
      · intro heq
        exact absurd heq h

lemma samplePublicKey_eq_ephemeral {key : Bytes} : samplePublicKey key = ephemeralPublic ↔
    key = List.replicate 32 1 := by
  unfold samplePublicKey
  split
  · next h => simp [h]
  · next h =>
    split
    · next h' =>
      subst h'
      decide +kernel
    · constructor
      · intro heq
        exact absurd heq (by decide +kernel)
      · intro heq
        exact absurd heq h

def sampleExchange (key point : Bytes) : Option Bytes :=
  if (key = List.replicate 32 1 ∧ point = recipientPublic) ∨
    (key = List.replicate 32 2 ∧ point = ephemeralPublic) then some sharedSecret
  else none

lemma sampleExchange_comm (a b : Bytes) : sampleExchange a (samplePublicKey b) = sampleExchange b
    (samplePublicKey a) := by
  unfold sampleExchange
  simp only [samplePublicKey_eq_recipient, samplePublicKey_eq_ephemeral]
  exact if_congr (by tauto) rfl rfl

/-- A byte of the key stream. -/
def sampleStream (key nonce : Bytes) (i : Nat) : UInt8 :=
  if key = bundleKey ∧ nonce = bundleNonce ∧ i = 0 then 116
  else UInt8.ofNat (checksum (key ++ nonce) / 256 ^ (i % 32))

def sampleCipher (key nonce data : Bytes) : Bytes := data.mapIdx (fun i b => b ^^^ sampleStream key nonce i)

def sampleContext : Document.Entries := [("task_id", .str "t"), ("target_id", .str "u"), ("source_epoch", .str "e")]

lemma sampleContext_keys : (sampleContext.map Prod.fst).Nodup := by decide

lemma sampleContext_ok : validateContext sampleContext = .ok () := by decide +kernel

def sampleDraw : Draw := ⟨List.replicate 32 1, List.replicate 32 3, by decide, bundleNonce, by decide⟩

/-- What the key of the bundle is derived for. -/
def sampleInfo : Bytes := utf8Encode bundleFormat.toList ++ 10 :: utf8Encode
    (canonicalJson .fractions (.obj sampleContext))

/-- The associated data of the bundle. -/
def sampleAad : Bytes :=
  utf8Encode (canonicalJson
    .fractions (.obj (Document.update (Document.update [("format", .str bundleFormat)] sampleContext)
    [("recipient_key_fingerprint", .str (sampleSha256 recipientPublic)),
      ("ephemeral_public_key", .str (encode (samplePublicKey sampleDraw.ephemeral))),
      ("salt", .str (encode sampleDraw.salt)),
      ("nonce", .str (encode sampleDraw.nonce)),
      ("plaintext_size", .int ([7] : Bytes).length),
      ("plaintext_sha256", .str (sampleSha256 [7]))])))

def sampleHkdf (secret salt info : Bytes) : Bytes :=
  if secret = sharedSecret ∧ salt = sampleDraw.salt ∧ info = sampleInfo then bundleKey
  else checksumBytes 32 (secret ++ salt ++ info)

/-- The tag of a ciphertext. -/
def sampleTag (key nonce aad body : Bytes) : Bytes :=
  if key = bundleKey ∧ nonce = bundleNonce ∧ aad = sampleAad ∧ body = bundleBytes.1 then bundleBytes.2
  else 0 :: checksumBytes 15 (key ++ nonce ++ aad ++ body)

def sampleSeal (key nonce aad data : Bytes) : Bytes × Bytes :=
  (sampleCipher key nonce data, sampleTag key nonce aad (sampleCipher key nonce data))

def sampleOpen (key nonce aad : Bytes) (bytes : Bytes × Bytes) : Option Bytes :=
  if bytes.2 = sampleTag key nonce aad bytes.1 then some (sampleCipher key nonce bytes.1) else none

lemma sampleCipher_cipher (key nonce data : Bytes) : sampleCipher key nonce (sampleCipher key nonce data) = data := by
  unfold sampleCipher
  rw [List.mapIdx_mapIdx]
  apply List.ext_getElem
  · rw [List.length_mapIdx]
  · intro i _ _
    rw [List.getElem_mapIdx, Function.comp_apply, UInt8.xor_assoc, UInt8.xor_self, UInt8.xor_zero]

lemma sampleOpen_seal (key nonce aad data : Bytes) :
    sampleOpen key nonce aad (sampleSeal key nonce aad data) = some data := by
  unfold sampleOpen sampleSeal
  rw [if_pos rfl, sampleCipher_cipher]

lemma sampleTag_length (key nonce aad body : Bytes) : (sampleTag key nonce aad body).length = 16 := by
  unfold sampleTag
  split
  · rfl
  · unfold checksumBytes
    rw [List.length_cons, List.length_map, List.length_range]

/-- The tag of the bundle is the one of its key, nonce, associated data and body alone. -/
lemma sampleTag_eq {key nonce aad body : Bytes} (h : sampleTag key nonce aad body = bundleBytes.2) :
    key = bundleKey ∧ nonce = bundleNonce ∧ aad = sampleAad ∧ body = bundleBytes.1 := by
  unfold sampleTag at h
  split at h
  · next hparts => exact hparts
  · have hhead : (0 : UInt8) = 154 := (List.cons.inj h).1
    exact absurd hhead (by decide)

lemma samplePublicKey_length (key : Bytes) : (samplePublicKey key).length = 32 := by
  unfold samplePublicKey
  split
  · rfl
  · split <;> rfl

lemma sampleSeal_length (key nonce aad data : Bytes) : (sampleSeal key nonce aad data).1.length = data.length :=
  List.length_mapIdx

/-- The primitives, with their values at the inputs of one bundle. -/
def sampleConfig : BundleConfig where
  floats := .fractions
  sha256 := sampleSha256
  sha256_digest := sampleSha256_digest
  publicKey := samplePublicKey
  publicKey_length := samplePublicKey_length
  exchange := sampleExchange
  exchange_comm := sampleExchange_comm
  hkdf := sampleHkdf
  gcmSeal := sampleSeal
  gcmSeal_length := sampleSeal_length
  gcmSeal_tag key nonce aad data := sampleTag_length key nonce aad (sampleCipher key nonce data)
  gcmOpen := sampleOpen
  gcmOpen_seal := sampleOpen_seal
  isdigit c := '0' ≤ c && c ≤ '9'
  repr _ := ""

/-- The file `[7]` for the sample recipient. -/
def sampleEncryption (context : Document.Entries) (hkeys : (context.map Prod.fst).Nodup) : Encryption :=
  ⟨some [7], "bundle", "0", recipientPublic, context, hkeys, sampleDraw, .ok ()⟩

def emptyDirectory : Files := fun _ => none

lemma sampleExchange_eq : sampleExchange (List.replicate 32 1) recipientPublic = some sharedSecret :=
  if_pos (.inl ⟨rfl, rfl⟩)

lemma sampleEncryption_ok {context : Document.Entries} (hkeys : (context.map Prod.fst).Nodup)
    (hcontext : validateContext context = .ok ()) :
    (sampleEncryption context hkeys).encryptBundle sampleConfig emptyDirectory =
      (.ok (manifestOf sampleConfig (metadata sampleConfig recipientPublic sampleDraw context [7])
          (sealOf sampleConfig (sampleEncryption context hkeys) sharedSecret [7]).bytes),
        Function.update emptyDirectory "bundle"
          (some ((sealOf sampleConfig (sampleEncryption context hkeys) sharedSecret [7]).bytes.1 ++
          (sealOf sampleConfig (sampleEncryption context hkeys) sharedSecret [7]).bytes.2))) :=
  encryptBundle_of hcontext rfl (by decide) sampleExchange_eq rfl rfl rfl

/-- The encryption of the sample context. -/
def sampleRun : Encryption := sampleEncryption sampleContext sampleContext_keys

/-- The sample is sealed as the bytes of the bundle. -/
lemma sealOf_sample :
    sealOf sampleConfig sampleRun sharedSecret [7] = ⟨bundleKey, bundleNonce, sampleAad, [7], bundleBytes⟩ := by
  have hinfo : utf8Encode bundleFormat.toList ++ 10 :: canonicalBytes sampleConfig sampleContext = sampleInfo := rfl
  have hhkdf : sampleHkdf sharedSecret sampleDraw.salt sampleInfo = bundleKey := if_pos ⟨rfl, rfl, rfl⟩
  have hkey : deriveKey sampleConfig sharedSecret sampleDraw.salt sampleContext = bundleKey := by
    unfold deriveKey
    rw [hinfo]
    exact hhkdf
  have haad : canonicalBytes sampleConfig (metadata sampleConfig recipientPublic sampleDraw sampleContext [7]) =
      sampleAad := rfl
  have hbody : sampleCipher bundleKey bundleNonce [7] = bundleBytes.1 := by decide
  have htag : sampleTag bundleKey bundleNonce sampleAad bundleBytes.1 = bundleBytes.2 := if_pos ⟨rfl, rfl, rfl, rfl⟩
  have hsealed : sampleSeal bundleKey bundleNonce sampleAad [7] = bundleBytes := by
    unfold sampleSeal
    rw [hbody, htag]
  unfold sealOf sampleRun sampleEncryption
  dsimp only
  rw [hkey, haad]
  exact congrArg (Seal.mk bundleKey bundleNonce sampleAad [7]) hsealed

def sampleProduced : Document.Entries :=
  manifestOf sampleConfig (metadata sampleConfig recipientPublic sampleDraw sampleContext [7]) bundleBytes

lemma sampleRun_ok : sampleRun.encryptBundle sampleConfig emptyDirectory =
    (.ok sampleProduced, Function.update emptyDirectory "bundle" (some (bundleBytes.1 ++ bundleBytes.2))) := by
  have hencrypt := sampleEncryption_ok sampleContext_keys sampleContext_ok
  have hbytes : (sealOf sampleConfig (sampleEncryption sampleContext sampleContext_keys) sharedSecret [7]).bytes =
      bundleBytes :=
    congrArg Seal.bytes sealOf_sample
  rw [hbytes] at hencrypt
  exact hencrypt

lemma sampleProduced_epoch : Document.get? sampleProduced "source_epoch" = some (.str "e") := by decide +kernel

lemma sampleContext_readable : Readable sampleConfig sampleContext where
  keys := by
    intro x hx
    unfold sampleContext at hx
    simp only [List.mem_cons, List.not_mem_nil, or_false] at hx
    rcases hx with rfl | rfl | rfl <;> decide
  schema x hx := by cases hx
  payload := rfl

/-- Whatever the directory, the sample leaves its manifest and its ciphertext. -/
lemma sampleRun_produced {fs fs' : Files} {produced : Document.Entries}
    (h : sampleRun.encryptBundle sampleConfig fs = (.ok produced, fs')) :
    produced = sampleProduced ∧ fs' "bundle" = some (bundleBytes.1 ++ bundleBytes.2) := by
  obtain ⟨data, secret, henc⟩ := encryptBundle_ok h
  have hdata : data = [7] := (Option.some.inj henc.source).symm
  have hsecret : secret = sharedSecret := Option.some.inj (henc.exchanged.symm.trans sampleExchange_eq)
  have hmanifest := henc.manifest
  have hfiles := henc.files
  rw [hdata, hsecret, sealOf_sample] at hmanifest hfiles
  refine ⟨hmanifest, ?_⟩
  rw [hfiles]
  exact Function.update_self "bundle" _ fs

/-- The tag of the bundle opens the bytes of the bundle and nothing else. -/
lemma sample_authentic {d : Decryption} {first : UInt8} (hsource : d.source = some (first :: bundleBytes.2)) :
    Authentic sampleConfig [sampleRun] d emptyDirectory := by
  intro v key source data hprepare hopen
  obtain ⟨secret, -, hp⟩ := prepare_ok hprepare
  have hbytes : source = first :: bundleBytes.2 := Option.some.inj (hp.found.symm.trans hsource)
  have hsize : v.ciphertextSize = 17 := by rw [← hp.length, hbytes]; rfl
  have hparts : bodyAndTag v source = ([first], bundleBytes.2) := by
    unfold bodyAndTag
    rw [hsize, hbytes]
    rfl
  rw [hparts] at hopen ⊢
  have htag : bundleBytes.2 = sampleTag key v.nonce (canonicalBytes sampleConfig (metadataOf d.manifest)) [first] := by
    by_contra hne
    have hnone : sampleOpen key v.nonce (canonicalBytes sampleConfig (metadataOf d.manifest))
        ([first], bundleBytes.2) = none :=
      if_neg hne
    exact absurd (hnone.symm.trans hopen) (by simp)
  obtain ⟨hkey, hnonce, haad, hbody⟩ := sampleTag_eq htag.symm
  refine ⟨sampleRun, List.mem_singleton_self _, [7], sharedSecret, rfl, sampleExchange_eq, ?_⟩
  rw [sealOf_sample, hkey, haad, hnonce, hbody]
  exact ⟨rfl, rfl, rfl, rfl⟩

/-- The sample is opened with its own context; its bytes, and its bytes with another first one, are opened as nothing
else: not for another epoch, not for another context, not with an altered byte. -/
theorem sample_bundle_opened :
    (∃ produced, (sampleRun.encryptBundle sampleConfig emptyDirectory).1 = .ok produced ∧
      ∀ d : Decryption, d.source = some (bundleBytes.1 ++ bundleBytes.2) → d.manifest = produced →
        d.expectedContext = sampleContext → d.recipient = List.replicate 32 2 → d.parent = .ok () →
        d.decryptBundle sampleConfig emptyDirectory =
          (.ok (), Function.update emptyDirectory d.destination (some [7]))) ∧
    ∀ (d : Decryption) (first : UInt8), d.source = some (first :: bundleBytes.2) →
      (first = 115 ∧ Document.get? d.manifest "source_epoch" = some (.str "e") ∧
        (∀ x ∈ d.expectedContext, Document.get? d.manifest x.1 = some x.2) ∧
        d.decryptBundle sampleConfig emptyDirectory =
          (.ok (), Function.update emptyDirectory d.destination (some [7]))) ∨
      (∃ err, (d.decryptBundle sampleConfig emptyDirectory).1 = .error err) ∧
        ∀ name, name ≠ temporaryName d.destination d.token →
          (d.decryptBundle sampleConfig emptyDirectory).2 name = none := by
  constructor
  · obtain ⟨data, ciphertext, hdata, hfile, hcarries, hcontext, hmatch, hopen⟩ :=
      (bundle_faithful sampleConfig).1 _ _ _ _ sampleRun_ok sampleContext_readable
    cases hdata
    have hbytes : some (bundleBytes.1 ++ bundleBytes.2) = some ciphertext :=
      (Function.update_self "bundle" _ emptyDirectory).symm.trans hfile
    cases hbytes
    refine ⟨_, congrArg Prod.fst sampleRun_ok, fun d hsource hmanifest hexpected hrecipient hparent => ?_⟩
    apply hopen d emptyDirectory hsource (hmanifest ▸ hcarries) (hexpected ▸ hcontext)
    · rw [hmanifest, hexpected]
      exact hmatch
    · rw [hrecipient]
      rfl
    · exact hparent
    · rfl
    · rfl
  · intro d first hsource
    have hruns : ∀ run ∈ [sampleRun], ∃ fs manifest fs', run.encryptBundle sampleConfig fs = (.ok manifest, fs') := by
      intro run hrun
      rw [List.mem_singleton.mp hrun]
      exact ⟨_, _, _, sampleRun_ok⟩
    rcases (bundle_faithful sampleConfig).2 [sampleRun] d emptyDirectory hruns (sample_authentic hsource) with
      ⟨run, hrun, _, produced, _, data, _, hencrypt, hdata, hfile, hfound, hcarries, hmatch, -, hopen⟩ | hrefused
    · left
      rw [List.mem_singleton.mp hrun] at hencrypt hdata hfile
      obtain ⟨rfl, hbundle⟩ := sampleRun_produced hencrypt
      cases hdata
      have hbytes := Option.some.inj (hsource.symm.trans (hfound.trans (hfile.symm.trans hbundle)))
      refine ⟨(List.cons.inj hbytes).1, ?_, hmatch, hopen⟩
      rw [hcarries.fields "source_epoch" (by decide) (by decide)]
      exact sampleProduced_epoch
    · right
      exact hrefused

/-! ### A context that is not read back -/

def notedContext : Document.Entries := sampleContext ++ [("note", .str "n")]

lemma notedContext_keys : (notedContext.map Prod.fst).Nodup := by decide

/-- `encrypt_bundle` takes a context with a key of its own, and `decrypt_bundle` refuses the manifest. -/
theorem noted_bundle_refused :
    ∃ produced, ((sampleEncryption notedContext notedContext_keys).encryptBundle sampleConfig emptyDirectory).1 =
      .ok produced ∧ ∀ d : Decryption, d.manifest = produced → d.expectedContext = notedContext →
        (d.decryptBundle sampleConfig emptyDirectory).1 = .error
          (.valueError "migration bundle manifest is invalid") := by
  have hcontext : validateContext notedContext = .ok () := by decide +kernel
  have hencrypt := sampleEncryption_ok notedContext_keys hcontext
  refine ⟨_, congrArg Prod.fst hencrypt, fun d hmanifest hexpected => ?_⟩
  have hrefused : validateManifest sampleConfig d.manifest =
      .error (.valueError "migration bundle manifest is invalid") := by
    rw [hmanifest]
    unfold validateManifest
    rw [raiseIf_neg (by decide +kernel), ok_bind, raiseIf, if_pos (by decide +kernel)]
    rfl
  have hprepare : d.prepare sampleConfig emptyDirectory =
      .error (.valueError "migration bundle manifest is invalid") := by
    unfold Decryption.prepare
    rw [hexpected, hcontext, ok_bind, hrefused]
    rfl
  unfold Decryption.decryptBundle
  rw [hprepare]

end Noyra.Migration.Bundle.Proofs
