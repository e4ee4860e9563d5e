import Noyra.Lib.Base64
import Noyra.Lib.Digest
import Noyra.Lib.JsonText
import Noyra.Lib.Stream
import Noyra.Migration.ChunkReceipt

/-!
# What a complete receipt says

A receipt with `complete` promises the stored artifact and manifest as long as no other manifest holds the name of
the artifact's manifest: a stored manifest never lies about its artifact, also when its last bytes are missing.
-/

namespace Noyra.Migration.Chunks.Proofs
open Noyra.Lib Noyra.Lib.Document Noyra.Lib.Program

variable {cfg : ChunkConfig}

lemma head?_of_valid {s : String} (h : isArtifactId s = true) : ∃ c cs, s.toList = c :: cs ∧ c ≠ '.' := by
  unfold isArtifactId at h
  split at h
  · cases h
  · next c cs heq =>
    refine ⟨c, cs, heq, ?_⟩
    rintro rfl
    revert h
    simp [isIdStart]

/-- The four names of an artifact. -/
inductive Kind
  | manifest
  | artifact
  | temporary
  | session
  deriving DecidableEq

def nameOf (id : String) : Kind → String
  | .manifest => id ++ ".json"
  | .artifact => id ++ ".artifact"
  | .temporary => "." ++ id ++ ".artifact"
  | .session => "." ++ id ++ ".chunks"

lemma append_right {a b s : String} (h : a ++ s = b ++ s) : a = b := by
  have hlist := congrArg String.toList h
  rw [String.toList_append, String.toList_append] at hlist
  exact String.toList_injective (List.append_cancel_right hlist)

lemma append_last {a b s t : String} {x y : Char} (hs : s.toList.getLast? = some x) (ht : t.toList.getLast? = some y)
    (hne : x ≠ y) :
    a ++ s ≠ b ++ t := by
  intro h
  have hlist := congrArg (fun s => s.toList.getLast?) h
  simp only [String.toList_append, List.getLast?_append, hs, ht] at hlist
  exact hne (Option.some.inj hlist)

lemma dot_left {a b : String} (h : "." ++ a = "." ++ b) : a = b := by
  have hlist := congrArg String.toList h
  rw [String.toList_append, String.toList_append] at hlist
  exact String.toList_injective (List.append_cancel_left hlist)

/-- Names of an artifact tell its id, and the kind unless one id starts with a dot. -/
lemma nameOf_manifest {a b : String} {k : Kind} (h : nameOf a .manifest = nameOf b k) : a = b ∧ k = .manifest := by
  cases k with
  | manifest => exact ⟨append_right h, rfl⟩
  | artifact => exact absurd h (append_last (x := 'n') (y := 't') rfl rfl (by decide))
  | temporary => exact absurd h (append_last (x := 'n') (y := 't') rfl rfl (by decide))
  | session => exact absurd h (append_last (x := 'n') (y := 's') rfl rfl (by decide))

lemma nameOf_session {a b : String} {k : Kind} (h : nameOf a .session = nameOf b k) : a = b ∧ k = .session := by
  cases k with
  | manifest => exact absurd h (append_last (x := 's') (y := 'n') rfl rfl (by decide))
  | artifact => exact absurd h (append_last (x := 's') (y := 't') rfl rfl (by decide))
  | temporary => exact absurd h (append_last (x := 's') (y := 't') rfl rfl (by decide))
  | session => exact ⟨dot_left (append_right h), rfl⟩

/-- Names of artifacts tell the artifact and the kind. -/
lemma nameOf_inj {a b : String} (ha : isArtifactId a = true) (hb : isArtifactId b = true) {k l : Kind}
    (h : nameOf a k = nameOf b l) : a = b ∧ k = l := by
  have hdot : ∀ {a b : String}, isArtifactId a = true → nameOf a .artifact ≠ nameOf b .temporary := by
    intro a b ha hname
    obtain ⟨c, cs, hac, hc⟩ := head?_of_valid ha
    have hlist := congrArg String.toList (append_right hname)
    rw [hac, String.toList_append] at hlist
    exact hc (List.cons.inj hlist).1
  cases k with
  | manifest => exact (nameOf_manifest h).imp_right Eq.symm
  | session => exact (nameOf_session h).imp_right Eq.symm
  | artifact =>
    cases l with
    | manifest => exact (nameOf_manifest h.symm).imp Eq.symm id
    | session => exact (nameOf_session h.symm).imp Eq.symm id
    | artifact => exact ⟨append_right h, rfl⟩
    | temporary => exact absurd h (hdot ha)
  | temporary =>
    cases l with
    | manifest => exact (nameOf_manifest h.symm).imp Eq.symm id
    | session => exact (nameOf_session h.symm).imp Eq.symm id
    | artifact => exact absurd h.symm (hdot hb)
    | temporary => exact ⟨dot_left (append_right h), rfl⟩

/-- The artifact of a manifest is there. -/
def Stored (cfg : ChunkConfig) (d : Incoming) (m : Manifest) : Prop :=
  ∃ data, d.read (.top m.artifactName) = some data ∧ data.length = m.byteSize ∧
    m.artifactSha256 = some (.str (cfg.sha256 data))

/-- A manifest file of an artifact, whole or without its end, describes the stored artifact. -/
def HonestAt (cfg : ChunkConfig) (id : String) (d : Incoming) : Prop :=
  ∀ content, d.read (.top (nameOf id .manifest)) = some content →
    ∃ m : Manifest, m.artifactId = id ∧ content <+: m.bytes cfg ∧ Stored cfg d m

def Honest (cfg : ChunkConfig) (d : Incoming) : Prop := ∀ id, isArtifactId id = true → HonestAt cfg id d

/-- Nothing of another artifact is touched. -/
def Others (a : String) (d₀ d : Incoming) : Prop :=
  ∀ id, isArtifactId id = true → id ≠ a → ∀ k, d (nameOf id k) = d₀ (nameOf id k)

/-- No file of the session is lost or changed. -/
def PartsKept (a : String) (d₀ d : Incoming) : Prop :=
  ∀ name content, d₀.read (.inside (nameOf a .session) name) = some content →
    d.read (.inside (nameOf a .session) name) = some content

/-- What holds wherever a call is stopped. -/
structure Crash (cfg : ChunkConfig) (a : String) (d₀ d : Incoming) : Prop where
  honest : HonestAt cfg a d
  others : Others a d₀ d
  kept : d.isFile (nameOf a .manifest) = true ∨ PartsKept a d₀ d

/-- A call before it writes the manifest. -/
structure Early (a : String) (d₀ d : Incoming) : Prop where
  absent : d.read (.top (nameOf a .manifest)) = none
  others : Others a d₀ d
  kept : PartsKept a d₀ d

section
variable {a id : String} {d d' d₀ : Incoming} {m : Manifest}

lemma read_top_congr {name : String} (h : d' name = d name) : d'.read (.top name) = d.read (.top name) := by
  unfold Incoming.read
  dsimp only
  rw [h]

lemma read_inside_congr {folder name : String} (h : d' folder = d folder) :
    d'.read (.inside folder name) = d.read (.inside folder name) := by
  unfold Incoming.read
  dsimp only
  rw [h]

lemma isFile_iff {name : String} : d.isFile name = true ↔ ∃ content, d.read (.top name) = some content := by
  unfold Incoming.isFile Incoming.read
  dsimp only
  cases d name with
  | none => simp
  | some node => cases node <;> simp

lemma HonestAt.congr (h : HonestAt cfg id d) (hsame : ∀ k, d' (nameOf id k) = d (nameOf id k)) :
    HonestAt cfg id d' := by
  intro content hread
  rw [read_top_congr (hsame .manifest)] at hread
  obtain ⟨m, hid, hcontent, data, hdata, hm⟩ := h content hread
  subst hid
  exact ⟨m, rfl, hcontent, data, (read_top_congr (hsame .artifact)).trans hdata, hm⟩

lemma Crash.honest_all (h : Crash cfg a d₀ d) (h₀ : Honest cfg d₀) : Honest cfg d := by
  intro id hid
  by_cases ha : id = a
  · rw [ha]
    exact h.honest
  · exact (h₀ id hid).congr (h.others id hid ha)

lemma Early.crash (h : Early a d₀ d) : Crash cfg a d₀ d := by
  refine ⟨fun content hread => ?_, h.others, .inr h.kept⟩
  rw [h.absent] at hread
  cases hread

lemma Others.update (ha : isArtifactId a = true) (h : Others a d₀ d) (k : Kind) (node : Option Node) :
    Others a d₀ (Function.update d (nameOf a k) node) := by
  intro id hid hne l
  rw [Function.update_of_ne]
  · exact h id hid hne l
  · intro hname
    exact hne (nameOf_inj hid ha hname).1

lemma update_own {k l : Kind} (hkl : k ≠ l) (ha : isArtifactId a = true) (node : Option Node) :
    Function.update d (nameOf a k) node (nameOf a l) = d (nameOf a l) :=
  Function.update_of_ne (fun h => hkl (nameOf_inj ha ha h).2.symm) _ _

/-- The file for assembly and the artifact may be written early. -/
lemma Early.update (ha : isArtifactId a = true) (h : Early a d₀ d) {k : Kind} (hm : k ≠ .manifest) (hs : k ≠ .session)
    (node : Option Node) :
    Early a d₀ (Function.update d (nameOf a k) node) := by
  refine ⟨?_, h.others.update ha k node, fun name content hread => ?_⟩
  · rw [read_top_congr (update_own hm ha node)]
    exact h.absent
  · rw [read_inside_congr (update_own hs ha node)]
    exact h.kept name content hread

lemma read_put_inside {folder name name' : String} {files : String → Option Bytes} {content : Option Bytes}
    (h : d folder = some (.folder files)) :
    (d.put (.inside folder name) content).read (.inside folder name') = if name' = name then content else d.read
      (.inside folder name') := by
  unfold Incoming.put Incoming.read
  dsimp only
  rw [h]
  dsimp only
  rw [Function.update_self]
  dsimp only
  by_cases hn : name' = name
  · rw [if_pos hn, hn, Function.update_self]
  · rw [if_neg hn, Function.update_of_ne hn]

/-- A file that the session did not have may be written or removed. -/
lemma Early.put_inside (ha : isArtifactId a = true) (h : Early a d₀ d) {name : String}
    (hfree : d₀.read (.inside (nameOf a .session) name) = none) (content : Option Bytes) :
    Early a d₀ (d.put (.inside (nameOf a .session) name) content) := by
  cases hnode : d (nameOf a .session) with
  | none =>
    have hsame : d.put (.inside (nameOf a .session) name) content = d := by
      unfold Incoming.put
      dsimp only
      rw [hnode]
    rw [hsame]
    exact h
  | some node =>
    cases node with
    | file bytes =>
      have hsame : d.put (.inside (nameOf a .session) name) content = d := by
        unfold Incoming.put
        dsimp only
        rw [hnode]
      rw [hsame]
      exact h
    | folder files =>
      have hupdate : d.put (.inside (nameOf a .session) name) content =
          Function.update d (nameOf a .session) (some (.folder (Function.update files name content))) := by
        unfold Incoming.put
        dsimp only
        rw [hnode]
      refine ⟨?_, ?_, fun name' kept hread => ?_⟩
      · rw [hupdate, read_top_congr (update_own (by decide) ha _)]
        exact h.absent
      · rw [hupdate]
        exact h.others.update ha .session _
      · rw [read_put_inside hnode, if_neg]
        · exact h.kept name' kept hread
        · rintro rfl
          rw [hfree] at hread
          cases hread

/-- What is not in the session now was not there at the start. -/
lemma Early.free (h : Early a d₀ d) {name : String} (hread : d.read (.inside (nameOf a .session) name) = none) :
    d₀.read (.inside (nameOf a .session) name) = none := by
  cases h₀ : d₀.read (.inside (nameOf a .session) name) with
  | none => rfl
  | some content =>
    rw [h.kept name content h₀] at hread
    cases hread

/-- The session directory is there. -/
def IsOpen (a : String) (d : Incoming) : Prop := ∃ files, d (nameOf a .session) = some (.folder files)

lemma IsOpen.put (h : IsOpen a d) (name : String) (content : Option Bytes) :
    IsOpen a (d.put (.inside (nameOf a .session) name) content) := by
  obtain ⟨files, hfiles⟩ := h
  refine ⟨Function.update files name content, ?_⟩
  unfold Incoming.put
  dsimp only
  rw [hfiles]
  exact Function.update_self _ _ _

end

section
variable {a : String} {d d₀ : Incoming} {crash : Incoming → Prop}

/-- An operation, with what is left when it is done and when it fails. -/
lemma safe_act {command : FileCommand} {post : Except ReceiveError Unit → Incoming → Prop}
    (hdone : ∀ x, (fileStep command x d).2 = .done → crash (fileStep command x d).1 ∧
      post (.ok ()) (fileStep command x d).1)
    (hfailed : ∀ x, (fileStep command x d).2 ≠ .done → crash (fileStep command x d).1 ∧
      post (.error .osError) (fileStep command x d).1) :
    (act command).Safe fileStep crash post d := by
  intro x
  by_cases hreply : (fileStep command x d).2 = .done
  · obtain ⟨hcrash, hpost⟩ := hdone x hreply
    refine ⟨hcrash, ?_⟩
    rw [hreply]
    exact hpost
  · obtain ⟨hcrash, hpost⟩ := hfailed x hreply
    refine ⟨hcrash, ?_⟩
    cases hr : (fileStep command x d).2 with
    | done => exact absurd hr hreply
    | _ => exact hpost

lemma safe_look {post : Except ReceiveError Incoming → Incoming → Prop} (hcrash : crash d) (h : post (.ok d) d) :
    look.Safe fileStep crash post d := fun _ => ⟨hcrash, h⟩

lemma safe_checkQuota {files bytes : Nat} {post : Except ReceiveError Unit → Incoming → Prop} (hcrash : crash d)
    (hok : post (.ok ()) d)
    (herr : ∀ e, post (.error e) d) : (checkQuota cfg files bytes).Safe fileStep crash post d := by
  intro x
  refine ⟨hcrash, ?_⟩
  unfold fileStep
  dsimp only
  split
  · exact herr _
  · exact hok

end

section
variable {a : String} {d d₀ : Incoming}

/-- The session while parts are added. -/
structure Session (a : String) (d₀ d : Incoming) : Prop extends Early a d₀ d where
  isOpen : IsOpen a d

lemma Session.put (ha : isArtifactId a = true) (h : Session a d₀ d) {name : String}
    (hfree : d₀.read (.inside (nameOf a .session) name) = none) (content : Option Bytes) :
    Session a d₀ (d.put (.inside (nameOf a .session) name) content) :=
  ⟨h.toEarly.put_inside ha hfree content, h.isOpen.put name content⟩

lemma read_put (h : Session a d₀ d) (name : String) (content : Option Bytes) :
    (d.put (.inside (nameOf a .session) name) content).read (.inside (nameOf a .session) name) = content := by
  obtain ⟨files, hfiles⟩ := h.isOpen
  rw [read_put_inside hfiles, if_pos rfl]

/-- A new file of the session. -/
lemma safe_write_inside (ha : isArtifactId a = true) (h : Session a d₀ d) (name : String) (content : Bytes) :
    (writePrivateBytes (.inside (nameOf a .session) name) content).Safe fileStep (Crash cfg a d₀)
      (fun r d' => Session a d₀ d' ∧ (r = .ok () → d'.read (.inside (nameOf a .session) name) = some content)) d := by
  have hcreate : (act (.create (.inside (nameOf a .session) name))).Safe fileStep (Crash cfg a d₀)
      (fun r d' => Session a d₀ d' ∧ (r = .ok () → d₀.read (.inside (nameOf a .session) name) = none)) d := by
    apply safe_act
    · intro x hdone
      unfold fileStep at hdone ⊢
      dsimp only at hdone ⊢
      split at hdone
      · next hread =>
        have hfree := h.free hread
        have hput := h.put ha hfree (some [])
        exact ⟨hput.toEarly.crash, hput, fun _ => hfree⟩
      · cases hdone
    · intro x hfailed
      unfold fileStep at hfailed ⊢
      dsimp only at hfailed ⊢
      split at hfailed
      · exact absurd rfl hfailed
      · exact ⟨h.toEarly.crash, h, fun herr => by cases herr⟩
  refine hcreate.bind ?_ (fun e d' hmid => ⟨hmid.1, fun herr => by cases herr⟩)
  rintro ⟨⟩ d₁ ⟨h₁, hfree⟩
  have hfree := hfree rfl
  have hput := fun content => h₁.put ha hfree content
  have hwrite : (act (.write (.inside (nameOf a .session) name) content)).Safe fileStep (Crash cfg a d₀)
      (fun r d' => Session a d₀ d' ∧ (r = .ok () → d'.read (.inside (nameOf a .session) name) = some content)) d₁ := by
    apply safe_act
    · intro x hdone
      unfold fileStep at hdone ⊢
      cases hfault : x.fault with
      | none => exact ⟨(hput _).toEarly.crash, hput _, fun _ => read_put h₁ name (some content)⟩
      | before => rw [hfault] at hdone; cases hdone
      | during => rw [hfault] at hdone; cases hdone
    · intro x hfailed
      unfold fileStep at hfailed ⊢
      cases hfault : x.fault with
      | none => rw [hfault] at hfailed; exact absurd rfl hfailed
      | before => exact ⟨h₁.toEarly.crash, h₁, fun herr => by cases herr⟩
      | during => exact ⟨(hput _).toEarly.crash, hput _, fun herr => by cases herr⟩
  refine hwrite.tryExcept (fun _ d' hmid => ⟨hmid.1, hmid.2⟩) ?_
  intro e d₂ hmid
  have hunlink : (act (.unlink (.inside (nameOf a .session) name))).Safe fileStep (Crash cfg a d₀)
      (fun _ d' => Session a d₀ d') d₂ := by
    have hput₂ := hmid.1.put ha hfree none
    apply safe_act
    · intro x hdone
      unfold fileStep at hdone ⊢
      cases hfault : x.fault with
      | none => exact ⟨hput₂.toEarly.crash, hput₂⟩
      | before => rw [hfault] at hdone; cases hdone
      | during => rw [hfault] at hdone; cases hdone
    · intro x hfailed
      unfold fileStep at hfailed ⊢
      cases hfault : x.fault with
      | none => rw [hfault] at hfailed; exact absurd rfl hfailed
      | before => exact ⟨hmid.1.toEarly.crash, hmid.1⟩
      | during => exact ⟨hmid.1.toEarly.crash, hmid.1⟩
  exact hunlink.bind (fun _ d' h' => ⟨h', fun herr => by cases herr⟩) (fun _ d' h' => ⟨h', fun herr => by cases herr⟩)

/-- The session directory is made or found. -/
lemma safe_mkdir (ha : isArtifactId a = true) (h : Early a d₀ d) :
    (act (.mkdir (nameOf a .session))).Safe fileStep (Crash cfg a d₀)
      (fun r d' => Early a d₀ d' ∧ (r = .ok () → IsOpen a d')) d := by
  have hnew : d (nameOf a .session) = none →
      Session a d₀ (Function.update d (nameOf a .session) (some (.folder (fun _ => none)))) := by
    intro hnone
    refine ⟨⟨?_, h.others.update ha .session _, fun name content hread => ?_⟩, ⟨_, Function.update_self _ _ _⟩⟩
    · rw [read_top_congr (update_own (by decide) ha _)]
      exact h.absent
    · have hkept := h.kept name content hread
      unfold Incoming.read at hkept
      dsimp only at hkept
      rw [hnone] at hkept
      cases hkept
  apply safe_act
  · intro x hdone
    unfold fileStep at hdone ⊢
    dsimp only at hdone ⊢
    split at hdone
    · next hfault hnode => exact ⟨(hnew hnode).toEarly.crash, (hnew hnode).toEarly, fun _ => (hnew hnode).isOpen⟩
    · next files hfault hnode => exact ⟨h.crash, h, fun _ => ⟨files, hnode⟩⟩
    · cases hdone
  · intro x hfailed
    unfold fileStep at hfailed ⊢
    dsimp only at hfailed ⊢
    split at hfailed
    · exact absurd rfl hfailed
    · exact absurd rfl hfailed
    · exact ⟨h.crash, h, fun herr => by cases herr⟩

variable {p : ChunkRequest}

lemma safe_bindSession (h : Session p.manifest.artifactId d₀ d) :
    (p.bindSession cfg).Safe fileStep (Crash cfg p.manifest.artifactId d₀)
      (fun _ d' => Session p.manifest.artifactId d₀ d') d := by
  refine Safe.bind (Q := fun r d' => d' = d ∧ r = .ok d) (safe_look h.toEarly.crash ⟨rfl, rfl⟩) ?_
    (fun _ _ hmid => by cases hmid.2)
  rintro _ _ ⟨rfl, hr⟩
  cases hr
  split
  · split
    · exact h
    · split
      · exact h
      · exact h
  · refine Safe.bind (Q := fun _ d' => Session p.manifest.artifactId d₀ d')
      (safe_checkQuota h.toEarly.crash h (fun _ => h)) ?_ (fun _ _ hmid => hmid)
    intro _ d₁ h₁
    exact (safe_write_inside p.manifest.valid_id h₁ "manifest.json" _).mono (fun _ _ hmid => hmid.1)

lemma safe_storePart (h : Session p.manifest.artifactId d₀ d) :
    (p.storePart cfg).Safe fileStep (Crash cfg p.manifest.artifactId d₀)
      (fun r d' => Session p.manifest.artifactId d₀ d' ∧
        (r = .ok () → d'.read (.inside p.manifest.sessionName (partName p.chunkIndex)) = some p.chunk)) d := by
  refine Safe.bind (Q := fun r d' => d' = d ∧ r = .ok d) (safe_look h.toEarly.crash ⟨rfl, rfl⟩) ?_
    (fun _ _ hmid => by cases hmid.2)
  rintro _ _ ⟨rfl, hr⟩
  cases hr
  split
  · next content hread =>
    split
    · next heq => exact ⟨h, fun _ => by rw [hread, heq]⟩
    · exact ⟨h, fun herr => by cases herr⟩
  · refine Safe.bind (Q := fun _ d' => Session p.manifest.artifactId d₀ d')
      (safe_checkQuota h.toEarly.crash h (fun _ => h)) ?_
      (fun _ _ hmid => ⟨hmid, fun herr => by cases herr⟩)
    intro _ d₁ h₁
    exact safe_write_inside p.manifest.valid_id h₁ _ _

end

/-! ### The assembly -/

section
variable {m : Manifest} {d d₀ : Incoming} {data : Bytes}

lemma Crash.update_temporary {a : String} (ha : isArtifactId a = true) (h : Crash cfg a d₀ d) (node : Option Node) :
    Crash cfg a d₀ (Function.update d (nameOf a .temporary) node) := by
  refine ⟨fun content hread => ?_, h.others.update ha .temporary node, h.kept.imp ?_ ?_⟩
  · rw [read_top_congr (update_own (by decide) ha node)] at hread
    obtain ⟨m, rfl, hcontent, data, hdata, hm⟩ := h.honest content hread
    exact ⟨m, rfl, hcontent, data,
      (read_top_congr (update_own (k := .temporary) (l := .artifact) (by decide) ha node)).trans hdata, hm⟩
  · intro hfile
    unfold Incoming.isFile at hfile ⊢
    rw [update_own (by decide) ha node]
    exact hfile
  · intro hkept name content hread
    rw [read_inside_congr (update_own (by decide) ha node)]
    exact hkept name content hread

/-- The artifact is in place and its manifest is being written. -/
structure Late (cfg : ChunkConfig) (m : Manifest) (d₀ d : Incoming) (data : Bytes) : Prop where
  others : Others m.artifactId d₀ d
  kept : PartsKept m.artifactId d₀ d
  artifact : d.read (.top m.artifactName) = some data
  manifest : ∀ content, d.read (.top m.manifestName) = some content → content <+: m.bytes cfg

/-- The data is what the manifest says. -/
def Describes (cfg : ChunkConfig) (m : Manifest) (data : Bytes) : Prop :=
  data.length = m.byteSize ∧ m.artifactSha256 = some (.str (cfg.sha256 data))

lemma Late.crash (h : Late cfg m d₀ d data) (hdata : Describes cfg m data) : Crash cfg m.artifactId d₀ d :=
  ⟨fun content hread => ⟨m, rfl, h.manifest content hread, data, h.artifact, hdata⟩, h.others, .inr h.kept⟩

lemma Late.put (h : Late cfg m d₀ d data) (content : Option Bytes)
    (hcontent : ∀ bytes, content = some bytes → bytes <+: m.bytes cfg) :
    Late cfg m d₀ (d.put (.top m.manifestName) content) data := by
  have hupdate : d.put (.top m.manifestName) content = Function.update d (nameOf m.artifactId .manifest)
      (content.map .file) := rfl
  rw [hupdate]
  refine ⟨h.others.update m.valid_id .manifest _, fun name bytes hread => ?_, ?_, fun bytes hread => ?_⟩
  · rw [read_inside_congr (update_own (by decide) m.valid_id _)]
    exact h.kept name bytes hread
  · exact (read_top_congr (update_own (k := .manifest) (l := .artifact) (by decide) m.valid_id _)).trans h.artifact
  · unfold Incoming.read at hread
    have hname : m.manifestName = nameOf m.artifactId .manifest := rfl
    dsimp only at hread
    rw [hname, Function.update_self] at hread
    cases content with
    | none => cases hread
    | some c => exact hcontent bytes hread

lemma read_put_top (d : Incoming) (name : String) (content : Bytes) :
    (d.put (.top name) (some content)).read (.top name) = some content := by
  unfold Incoming.put Incoming.read
  dsimp only [Option.map_some]
  rw [Function.update_self]

/-- The manifest is written last. -/
lemma safe_write_manifest (h : Late cfg m d₀ d data) (hdata : Describes cfg m data) :
    (writePrivateBytes (.top m.manifestName) (m.bytes cfg)).Safe fileStep (Crash cfg m.artifactId d₀)
      (fun r d' => Late cfg m d₀ d' data ∧ (r = .ok () → d'.read (.top m.manifestName) = some (m.bytes cfg))) d := by
  have hempty := h.put (some []) (fun bytes hb => by cases hb; exact List.nil_prefix)
  have hcreate : (act (.create (.top m.manifestName))).Safe fileStep (Crash cfg m.artifactId d₀)
      (fun _ d' => Late cfg m d₀ d' data) d := by
    apply safe_act
    · intro x hdone
      unfold fileStep at hdone ⊢
      dsimp only at hdone ⊢
      split at hdone
      · exact ⟨hempty.crash hdata, hempty⟩
      · cases hdone
    · intro x hfailed
      unfold fileStep at hfailed ⊢
      dsimp only at hfailed ⊢
      split at hfailed
      · exact absurd rfl hfailed
      · exact ⟨h.crash hdata, h⟩
  refine hcreate.bind ?_ (fun e d' hmid => ⟨hmid, fun herr => by cases herr⟩)
  rintro ⟨⟩ d₁ h₁
  have hwrite : (act (.write (.top m.manifestName) (m.bytes cfg))).Safe fileStep (Crash cfg m.artifactId d₀)
      (fun r d' => Late cfg m d₀ d' data ∧ (r = .ok () → d'.read (.top m.manifestName) = some (m.bytes cfg))) d₁ := by
    have hwhole := h₁.put (some (m.bytes cfg)) (fun bytes hb => by cases hb; exact List.prefix_refl _)
    apply safe_act
    · intro x hdone
      unfold fileStep at hdone ⊢
      cases hfault : x.fault with
      | none => exact ⟨hwhole.crash hdata, hwhole, fun _ => read_put_top _ _ _⟩
      | before => rw [hfault] at hdone; cases hdone
      | during => rw [hfault] at hdone; cases hdone
    · intro x hfailed
      have hcut := h₁.put (some ((m.bytes cfg).take x.written))
          (fun bytes hb => by cases hb; exact List.take_prefix _ _)
      unfold fileStep at hfailed ⊢
      cases hfault : x.fault with
      | none => rw [hfault] at hfailed; exact absurd rfl hfailed
      | before => exact ⟨h₁.crash hdata, h₁, fun herr => by cases herr⟩
      | during => exact ⟨hcut.crash hdata, hcut, fun herr => by cases herr⟩
  refine hwrite.tryExcept (fun _ d' hmid => ⟨hmid.1, hmid.2⟩) ?_
  intro e d₂ hmid
  have hunlink : (act (.unlink (.top m.manifestName))).Safe fileStep (Crash cfg m.artifactId d₀)
      (fun _ d' => Late cfg m d₀ d' data) d₂ := by
    have hput := hmid.1.put none (fun bytes hb => by cases hb)
    apply safe_act
    · intro x hdone
      unfold fileStep at hdone ⊢
      cases hfault : x.fault with
      | none => exact ⟨hput.crash hdata, hput⟩
      | before => rw [hfault] at hdone; cases hdone
      | during => rw [hfault] at hdone; cases hdone
    · intro x hfailed
      unfold fileStep at hfailed ⊢
      cases hfault : x.fault with
      | none => rw [hfault] at hfailed; exact absurd rfl hfailed
      | before => exact ⟨hmid.1.crash hdata, hmid.1⟩
      | during => exact ⟨hmid.1.crash hdata, hmid.1⟩
  exact hunlink.bind (fun _ d' h' => ⟨h', fun herr => by cases herr⟩) (fun _ d' h' => ⟨h', fun herr => by cases herr⟩)

/-- The artifact and its manifest are stored. -/
structure Complete (cfg : ChunkConfig) (m : Manifest) (d : Incoming) (data : Bytes) : Prop where
  describes : Describes cfg m data
  artifact : d.read (.top m.artifactName) = some data
  manifest : d.read (.top m.manifestName) = some (m.bytes cfg)

/-- The end of a session. -/
lemma safe_rmtree (h : Late cfg m d₀ d data) (hc : Complete cfg m d data) :
    (act (.rmtree m.sessionName)).Safe fileStep (Crash cfg m.artifactId d₀)
      (fun r d' => Crash cfg m.artifactId d₀ d' ∧ (r = .ok () → Complete cfg m d' data)) d := by
  have hname : m.sessionName = nameOf m.artifactId .session := rfl
  have hkeep : ∀ node, Crash cfg m.artifactId d₀ (Function.update d m.sessionName node) ∧
      Complete cfg m (Function.update d m.sessionName node) data := by
    intro node
    rw [hname]
    have hartifact : Incoming.read (Function.update d (nameOf m.artifactId .session) node) (.top m.artifactName) =
        some data :=
      (read_top_congr (update_own (k := .session) (l := .artifact) (by decide) m.valid_id node)).trans hc.artifact
    have hmanifest : Incoming.read (Function.update d (nameOf m.artifactId .session) node) (.top m.manifestName) =
        some (m.bytes cfg) :=
      (read_top_congr (update_own (k := .session) (l := .manifest) (by decide) m.valid_id node)).trans hc.manifest
    refine ⟨⟨fun content hread => ?_, h.others.update m.valid_id .session node, .inl (isFile_iff.mpr ⟨_, hmanifest⟩)⟩,
      hc.describes, hartifact, hmanifest⟩
    have hcontent : content = m.bytes cfg := Option.some.inj (hread.symm.trans hmanifest)
    exact ⟨m, rfl, hcontent ▸ List.prefix_refl _, data, hartifact, hc.describes⟩
  have hstay : Crash cfg m.artifactId d₀ d := h.crash hc.describes
  apply safe_act
  · intro x hdone
    unfold fileStep at hdone ⊢
    cases hfault : x.fault with
    | none => exact ⟨(hkeep none).1, (hkeep none).1, fun _ => (hkeep none).2⟩
    | before => rw [hfault] at hdone; cases hdone
    | during => rw [hfault] at hdone; cases hdone
  · intro x hfailed
    unfold fileStep at hfailed ⊢
    cases hfault : x.fault with
    | none => rw [hfault] at hfailed; exact absurd rfl hfailed
    | before => exact ⟨hstay, hstay, fun herr => by cases herr⟩
    | during =>
      dsimp only
      unfold Incoming.thin
      split
      · exact ⟨(hkeep _).1, (hkeep _).1, fun herr => by cases herr⟩
      · exact ⟨hstay, hstay, fun herr => by cases herr⟩

variable {p : ChunkRequest}

/-- The assembly stores what the manifest describes, or raises. -/
lemma safe_assemble (parts : List Bytes) (h : Early p.manifest.artifactId d₀ d) :
    (p.assemble cfg parts).Safe fileStep (Crash cfg p.manifest.artifactId d₀)
      (fun r d' => Crash cfg p.manifest.artifactId d₀ d' ∧ (r = .ok () → Complete cfg p.manifest d' parts.flatten))
        d := by
  have hid := p.manifest.valid_id
  have hover : (act (.overwrite p.manifest.temporaryName parts.flatten)).Safe fileStep
      (Crash cfg p.manifest.artifactId d₀)
      (fun r d' => Early p.manifest.artifactId d₀ d' ∧
        (r = .ok () → d' p.manifest.temporaryName = some (.file parts.flatten))) d := by
    have hput : ∀ content : Bytes, Early p.manifest.artifactId d₀
        (d.put (.top p.manifest.temporaryName) (some content)) := fun content =>
      h.update hid (k := .temporary) (by decide) (by decide) (some (.file content))
    apply safe_act
    · intro x hdone
      unfold fileStep at hdone ⊢
      cases hfault : x.fault with
      | none => exact ⟨(hput _).crash, hput _, fun _ => Function.update_self _ _ _⟩
      | before => rw [hfault] at hdone; cases hdone
      | during => rw [hfault] at hdone; cases hdone
    · intro x hfailed
      unfold fileStep at hfailed ⊢
      cases hfault : x.fault with
      | none => rw [hfault] at hfailed; exact absurd rfl hfailed
      | before => exact ⟨h.crash, h, fun herr => by cases herr⟩
      | during => exact ⟨(hput _).crash, hput _, fun herr => by cases herr⟩
  have hreplace : ∀ d₁, Early p.manifest.artifactId d₀ d₁ → d₁ p.manifest.temporaryName = some (.file parts.flatten) →
      Describes cfg p.manifest parts.flatten →
      (act (.replace p.manifest.temporaryName p.manifest.artifactName)).Safe fileStep
        (Crash cfg p.manifest.artifactId d₀)
        (fun r d' => Crash cfg p.manifest.artifactId d₀ d' ∧ (r = .ok () → Late cfg p.manifest d₀ d' parts.flatten))
          d₁ := by
    intro d₁ h₁ htemp hdescribes
    have hmoved : Early p.manifest.artifactId d₀
        (Function.update (Function.update d₁ p.manifest.artifactName (d₁ p.manifest.temporaryName))
          p.manifest.temporaryName none) :=
      (h₁.update hid (k := .artifact) (by decide) (by decide) _).update hid (k := .temporary) (by decide)
        (by decide) none
    have hlate : Late cfg p.manifest d₀
        (Function.update (Function.update d₁ p.manifest.artifactName (d₁ p.manifest.temporaryName))
          p.manifest.temporaryName none)
        parts.flatten := by
      refine ⟨hmoved.others, hmoved.kept, ?_, fun content hread => ?_⟩
      · have hne : p.manifest.artifactName ≠ p.manifest.temporaryName := fun heq =>
          absurd (nameOf_inj (k := .artifact) (l := .temporary) hid hid heq).2 (by decide)
        unfold Incoming.read
        dsimp only
        rw [Function.update_of_ne hne, Function.update_self, htemp]
      · exact absurd (hread.symm.trans hmoved.absent) (by simp)
    apply safe_act
    · intro x hdone
      unfold fileStep at hdone ⊢
      cases hfault : x.fault with
      | none => exact ⟨hmoved.crash, hmoved.crash, fun _ => hlate⟩
      | before => rw [hfault] at hdone; cases hdone
      | during => rw [hfault] at hdone; cases hdone
    · intro x hfailed
      unfold fileStep at hfailed ⊢
      cases hfault : x.fault with
      | none => rw [hfault] at hfailed; exact absurd rfl hfailed
      | before => exact ⟨h₁.crash, h₁.crash, fun herr => by cases herr⟩
      | during => exact ⟨h₁.crash, h₁.crash, fun herr => by cases herr⟩
  have hunlink : ∀ d₁, Crash cfg p.manifest.artifactId d₀ d₁ →
      (act (.unlink (.top p.manifest.temporaryName))).Safe fileStep (Crash cfg p.manifest.artifactId d₀)
        (fun _ d' => Crash cfg p.manifest.artifactId d₀ d') d₁ := by
    intro d₁ h₁
    have hput : Crash cfg p.manifest.artifactId d₀ (d₁.put (.top p.manifest.temporaryName) none) :=
      h₁.update_temporary hid none
    apply safe_act
    · intro x hdone
      unfold fileStep at hdone ⊢
      cases hfault : x.fault with
      | none => exact ⟨hput, hput⟩
      | before => rw [hfault] at hdone; cases hdone
      | during => rw [hfault] at hdone; cases hdone
    · intro x hfailed
      unfold fileStep at hfailed ⊢
      cases hfault : x.fault with
      | none => rw [hfault] at hfailed; exact absurd rfl hfailed
      | before => exact ⟨h₁, h₁⟩
      | during => exact ⟨h₁, h₁⟩
  unfold ChunkRequest.assemble
  -- the body stores the artifact and the manifest, or raises
  refine Safe.bind (Q := fun r d' => Crash cfg p.manifest.artifactId d₀ d' ∧
      (r = .ok () → Late cfg p.manifest d₀ d' parts.flatten ∧ Complete cfg p.manifest d' parts.flatten)) ?_ ?_
    (fun _ _ hmid => ⟨hmid.1, fun herr => by cases herr⟩)
  · refine Safe.tryExcept (Q := fun r d' => Crash cfg p.manifest.artifactId d₀ d' ∧
      (r = .ok () → Late cfg p.manifest d₀ d' parts.flatten ∧ Complete cfg p.manifest d' parts.flatten))
        ?_ (fun _ _ hmid => hmid) ?_
    · refine hover.bind ?_ (fun _ _ hmid => ⟨hmid.1.crash, fun herr => by cases herr⟩)
      rintro ⟨⟩ d₁ ⟨h₁, htemp⟩
      split
      · exact ⟨h₁.crash, fun herr => by cases herr⟩
      · next hgood =>
        push Not at hgood
        refine (hreplace d₁ h₁ (htemp rfl) hgood).bind ?_ (fun _ _ hmid => ⟨hmid.1, fun herr => by cases herr⟩)
        rintro ⟨⟩ d₂ ⟨-, hlate⟩
        refine (safe_write_manifest (hlate rfl) hgood).mono ?_
        rintro r d₃ ⟨hlate₃, hmanifest⟩
        exact ⟨hlate₃.crash hgood, fun hr => ⟨hlate₃, hgood, hlate₃.artifact, hmanifest hr⟩⟩
    · intro e d₁ hmid
      exact (hunlink d₁ hmid.1).bind (fun _ _ h' => ⟨h', fun herr => by cases herr⟩)
        (fun _ _ h' => ⟨h', fun herr => by cases herr⟩)
  · rintro ⟨⟩ d₁ ⟨-, hdone⟩
    obtain ⟨hlate, hcomplete⟩ := hdone rfl
    exact safe_rmtree hlate hcomplete

end

/-! ### A call -/

/-- A manifest file that begins another one describes the same artifact. -/
lemma same_artifact {m m' : Manifest} (h : m.bytes cfg <+: m'.bytes cfg) {data : Bytes}
    (hdata : Describes cfg m' data) :
    Describes cfg m data := by
  have hsorted := cfg.encode_complete _ _ m.keyed m'.keyed h
  have hread : ∀ k, (get? m.values k).map sorted = (get? m'.values k).map sorted := by
    intro k
    rw [sorted_obj, sorted_obj] at hsorted
    rw [← get?_sorted (keyed_obj.mp m.keyed).1, ← get?_sorted (keyed_obj.mp m'.keyed).1, Document.obj.inj hsorted]
  constructor
  · have hsize := hread "byte_size"
    rw [m.reads_size, m'.reads_size] at hsize
    have heq : (m.byteSize : ℤ) = m'.byteSize := Document.int.inj (Option.some.inj hsize)
    rw [hdata.1]
    exact_mod_cast heq.symm
  · have hsha := hread "artifact_sha256"
    have hstored : get? m'.values "artifact_sha256" = some (.str (cfg.sha256 data)) := hdata.2
    rw [hstored] at hsha
    obtain ⟨x, hx, hxs⟩ := Option.map_eq_some_iff.mp hsha
    have hstr : x = .str (cfg.sha256 data) := by
      cases x with
      | str t => exact hxs
      | arr xs => rw [sorted_arr] at hxs; cases hxs
      | obj es => rw [sorted_obj] at hxs; cases hxs
      | _ => exact hxs
    exact hstr ▸ hx

/-- The layout that `receive_chunk` demands. -/
structure Layout (p : ChunkRequest) : Prop where
  pos : 0 < p.chunkBytes
  count : p.chunkCount = (p.manifest.byteSize + p.chunkBytes - 1) / p.chunkBytes

lemma layout_of_accept {input : ChunkInput} {p : ChunkRequest} (h : acceptChunk cfg input = .ok p) : Layout p := by
  unfold acceptChunk at h
  obtain ⟨manifest, _, h⟩ := bind_eq_ok.mp h
  obtain ⟨_, _, h⟩ := bind_eq_ok.mp h
  obtain ⟨_, _, h⟩ := bind_eq_ok.mp h
  obtain ⟨_, hcount, h⟩ := bind_eq_ok.mp h
  obtain ⟨_, hbytes, h⟩ := bind_eq_ok.mp h
  obtain ⟨_, _, h⟩ := bind_eq_ok.mp h
  obtain ⟨_, hlayout, h⟩ := bind_eq_ok.mp h
  obtain ⟨_, _, h⟩ := bind_eq_ok.mp h
  obtain ⟨_, _, h⟩ := bind_eq_ok.mp h
  obtain ⟨_, _, h⟩ := bind_eq_ok.mp h
  obtain ⟨_, _, h⟩ := bind_eq_ok.mp h
  cases h
  have hcount := not_not.mp (raiseIf_eq_ok.mp hcount)
  have hbytes := not_not.mp (raiseIf_eq_ok.mp hbytes)
  have hlayout := raiseIf_eq_ok.mp hlayout
  push Not at hlayout
  constructor
  · dsimp only
    omega
  · dsimp only
    have hn : input.chunkBytes = (input.chunkBytes.toNat : ℤ) := by omega
    rw [hlayout.1, hn]
    have hcast : ((manifest.byteSize : ℤ) + (input.chunkBytes.toNat : ℤ) - 1) =
        ((manifest.byteSize + input.chunkBytes.toNat - 1 : ℕ) : ℤ) := by
      omega
    rw [hcast, Int.toNat_natCast]
    exact_mod_cast Int.toNat_natCast _

lemma filterMap_range {α : Type} (l : List α) (f : Nat → Option α)
    (h : ∀ (i : Nat) (x : α), l[i]? = some x → f i = some x) :
    (List.range l.length).filterMap f = l := by
  have hsome : (List.range l.length).map f = l.map some := by
    apply List.ext_getElem?
    intro i
    rw [List.getElem?_map, List.getElem?_map]
    by_cases hi : i < l.length
    · rw [List.getElem?_range hi, List.getElem?_eq_getElem hi, Option.map_some, Option.map_some,
        h i l[i] (List.getElem?_eq_getElem hi)]
    · rw [List.getElem?_eq_none (by rw [List.length_range]; omega), List.getElem?_eq_none (by omega)]
      rfl
  have hid : (List.range l.length).filterMap f = ((List.range l.length).map f).filterMap id := by
    rw [List.filterMap_map]
    rfl
  rw [hid, hsome, List.filterMap_map]
  exact List.filterMap_some

section
variable {p : ChunkRequest} {d d₀ : Incoming}

/-- When every part of the data is there, the parts are the data. -/
lemma parts_eq (hlayout : Layout p) {data : Bytes} (hlen : data.length = p.manifest.byteSize)
    (h : ∀ i chunk, (Stream.reads p.chunkBytes data)[i]? = some chunk →
      d.read (.inside p.manifest.sessionName (partName i)) = some chunk) :
    p.parts d = Stream.reads p.chunkBytes data := by
  unfold ChunkRequest.parts
  rw [hlayout.count, ← hlen, ← Stream.length_reads hlayout.pos]
  exact filterMap_range _ _ h

/-- What a receipt promises about the files it is returned over. -/
structure Facts (cfg : ChunkConfig) (p : ChunkRequest) (d₀ : Incoming) (receipt : ChunkReceipt) (d : Incoming) :
    Prop where
  complete : receipt.complete = true → ∃ data, Complete cfg p.manifest d data
  part : d.isFile p.manifest.manifestName = false → d.read (.inside p.manifest.sessionName (partName p.chunkIndex)) =
    some p.chunk
  whole : ∀ data, Describes cfg p.manifest data →
    (∀ i chunk, (Stream.reads p.chunkBytes data)[i]? = some chunk →
      d₀.read (.inside p.manifest.sessionName (partName i)) = some chunk ∨ (i = p.chunkIndex ∧ chunk = p.chunk)) →
    d.read (.top p.manifest.artifactName) = some data

lemma crash_refl (h₀ : Honest cfg d₀) : Crash cfg p.manifest.artifactId d₀ d₀ :=
  ⟨h₀ _ p.manifest.valid_id, fun _ _ _ _ => rfl, .inr (fun _ _ h => h)⟩

/-- `receive_chunk` over files that are honest, when the manifest of the artifact is its own. -/
lemma safe_receive (hlayout : Layout p) (h₀ : Honest cfg d₀)
    (hown : ∀ content, d₀.read (.top p.manifest.manifestName) = some content → content = p.manifest.bytes cfg) :
    (p.receive cfg).Safe fileStep (Crash cfg p.manifest.artifactId d₀)
      (fun r d => Crash cfg p.manifest.artifactId d₀ d ∧ ∀ receipt, r = .ok receipt → Facts cfg p d₀ receipt d) d₀ := by
  have hcrash : Crash cfg p.manifest.artifactId d₀ d₀ := crash_refl h₀
  unfold ChunkRequest.receive
  refine Safe.bind (Q := fun r d' => d₀ = d' ∧ r = .ok d₀) (safe_look hcrash ⟨rfl, rfl⟩) ?_
    (fun _ _ hmid => by cases hmid.2)
  rintro _ _ ⟨rfl, hr⟩
  cases hr
  split
  · -- the artifact was complete before
    next hboth =>
    obtain ⟨content, hmanifest⟩ := isFile_iff.mp hboth.1
    obtain ⟨m', hid, hbegins, data, hartifact, hdata⟩ := h₀ _ p.manifest.valid_id content hmanifest
    rw [hown content hmanifest] at hbegins hmanifest
    have hdescribes := same_artifact hbegins hdata
    have hname : m'.artifactName = p.manifest.artifactName := by
      unfold Manifest.artifactName
      rw [hid]
    rw [hname] at hartifact
    refine ⟨hcrash, fun receipt _ => ⟨fun _ => ⟨data, hdescribes, hartifact, hmanifest⟩, fun hno => ?_,
      fun other hother _ => ?_⟩⟩
    · rw [hboth.1] at hno
      cases hno
    · have hsame : cfg.sha256 data = cfg.sha256 other :=
        Document.str.inj (Option.some.inj (hdescribes.2.symm.trans hother.2))
      rw [hartifact, cfg.sha256_injective hsame]
  · -- a session
    next hnot =>
    have habsent : d₀.read (.top p.manifest.manifestName) = none := by
      cases hread : d₀.read (.top p.manifest.manifestName) with
      | none => rfl
      | some content =>
        obtain ⟨m', hid, -, data, hartifact, -⟩ := h₀ _ p.manifest.valid_id content hread
        have hname : m'.artifactName = p.manifest.artifactName := by
          unfold Manifest.artifactName
          rw [hid]
        rw [hname] at hartifact
        exact absurd ⟨isFile_iff.mpr ⟨content, hread⟩, isFile_iff.mpr ⟨data, hartifact⟩⟩ hnot
    have hearly : Early p.manifest.artifactId d₀ d₀ := ⟨habsent, fun _ _ _ _ => rfl, fun _ _ h => h⟩
    refine (safe_mkdir p.manifest.valid_id hearly).bind ?_ (fun _ _ hmid => ⟨hmid.1.crash, fun _ herr => by cases herr⟩)
    rintro ⟨⟩ d₁ ⟨h₁, hopen⟩
    refine (safe_bindSession ⟨h₁, hopen rfl⟩).bind ?_
      (fun _ _ hmid => ⟨hmid.toEarly.crash, fun _ herr => by cases herr⟩)
    rintro ⟨⟩ d₂ h₂
    refine (safe_storePart h₂).bind ?_ (fun _ _ hmid => ⟨hmid.1.toEarly.crash, fun _ herr => by cases herr⟩)
    rintro ⟨⟩ d₃ ⟨h₃, hpart⟩
    have hpart := hpart rfl
    refine Safe.bind (Q := fun r d' => d₃ = d' ∧ r = .ok d₃) (safe_look h₃.toEarly.crash ⟨rfl, rfl⟩) ?_
      (fun _ _ hmid => by cases hmid.2)
    rintro _ _ ⟨rfl, hr⟩
    cases hr
    have hparts : ∀ data, Describes cfg p.manifest data →
        (∀ i chunk, (Stream.reads p.chunkBytes data)[i]? = some chunk →
          d₀.read (.inside p.manifest.sessionName (partName i)) = some chunk ∨ (i = p.chunkIndex ∧ chunk = p.chunk)) →
        p.parts d₃ = Stream.reads p.chunkBytes data := by
      intro data hdata hall
      apply parts_eq hlayout hdata.1
      intro i chunk hi
      rcases hall i chunk hi with hread | ⟨rfl, rfl⟩
      · exact h₃.kept _ _ hread
      · exact hpart
    split
    · refine (safe_assemble (p.parts d₃) h₃.toEarly).bind ?_ (fun _ _ hmid => ⟨hmid.1, fun _ herr => by cases herr⟩)
      rintro ⟨⟩ d₄ ⟨hcrash₄, hcomplete⟩
      have hcomplete := hcomplete rfl
      refine ⟨hcrash₄, fun receipt _ => ⟨fun _ => ⟨_, hcomplete⟩, fun hno => ?_, fun data hdata hall => ?_⟩⟩
      · rw [isFile_iff.mpr ⟨_, hcomplete.manifest⟩] at hno
        cases hno
      · rw [hcomplete.artifact, hparts data hdata hall, Stream.flatten_reads hlayout.pos]
    · next hincomplete =>
      refine ⟨h₃.toEarly.crash, fun receipt hr => ?_⟩
      cases hr
      refine ⟨fun hno => (by cases hno), fun _ => hpart, fun data hdata hall => absurd ?_ hincomplete⟩
      rw [hparts data hdata hall, Stream.length_reads hlayout.pos, hlayout.count, hdata.1]

end

/-! ### Runs -/

/-- A call finds under the name of its manifest no file but its own complete manifest. -/
def OwnManifest (cfg : ChunkConfig) (s : ChunkState) : ChunkAction → Prop
  | .call input _ => ∀ p, acceptChunk cfg input = .ok p →
      ∀ content, s.incoming.read (.top p.manifest.manifestName) = some content → content = p.manifest.bytes cfg
  | _ => True

/-- A session has accepted this chunk of the artifact. -/
def Answer.got (a : Answer) (index : Nat) (chunk : Bytes) : Prop :=
  ⟨a.request.manifest.artifactId, index, chunk⟩ ∈ a.delivered ∨ (index = a.request.chunkIndex ∧ chunk = a.request.chunk)

/-- What every receipt promises. -/
structure Kept (cfg : ChunkConfig) (a : Answer) : Prop where
  complete : a.receipt.complete = true → ∃ data, Complete cfg a.request.manifest a.incoming data
  whole : ∀ data, Describes cfg a.request.manifest data →
    (∀ i chunk, (Stream.reads a.request.chunkBytes data)[i]? = some chunk → Answer.got a i chunk) →
    a.incoming.read (.top a.request.manifest.artifactName) = some data

/-- A chunk that a live session has accepted is one of its parts. -/
structure Live (d : Incoming) (e : Delivery) : Prop where
  valid : isArtifactId e.artifactId = true
  running : d.isFile (nameOf e.artifactId .manifest) = false
  part : d.read (.inside (nameOf e.artifactId .session) (partName e.index)) = some e.chunk

structure Sound (cfg : ChunkConfig) (s : ChunkState) : Prop where
  honest : Honest cfg s.incoming
  live : ∀ e ∈ s.delivered, Live s.incoming e
  answers : ∀ a ∈ s.answers, Kept cfg a

section
variable {s : ChunkState} {d d₀ : Incoming}

lemma isFile_congr {name : String} {d d' : Incoming} (h : d' name = d name) : d'.isFile name = d.isFile name := by
  unfold Incoming.isFile
  rw [h]

/-- Other sessions live on. -/
lemma Live.others {a : String} {e : Delivery} (h : Live d₀ e) (hothers : Others a d₀ d) (hne : e.artifactId ≠ a) :
    Live d e :=
  ⟨h.valid, (isFile_congr (hothers _ h.valid hne .manifest)).trans h.running,
    (read_inside_congr (hothers _ h.valid hne .session)).trans h.part⟩

/-- What is left of the deliveries after a call. -/
lemma live_after {a : String} (hcrash : Crash cfg a d₀ d) {delivered : List Delivery}
    (h : ∀ e ∈ delivered, Live d₀ e) :
    ∀ e ∈ (if d.isFile (nameOf a .manifest) = true then delivered.filter (fun e => e.artifactId ≠ a) else delivered),
      Live d e := by
  intro e he
  by_cases hfile : d.isFile (nameOf a .manifest) = true
  · rw [if_pos hfile, List.mem_filter] at he
    exact (h e he.1).others hcrash.others (by simpa using he.2)
  · rw [if_neg hfile] at he
    by_cases hid : e.artifactId = a
    · have hkept := hcrash.kept.resolve_left hfile
      refine ⟨(h e he).valid, ?_, ?_⟩
      · rw [hid]
        simpa using hfile
      · have hpart := (h e he).part
        rw [hid] at hpart ⊢
        exact hkept _ _ hpart
    · exact (h e he).others hcrash.others hid

lemma sound_call (hs : Sound cfg s) {input : ChunkInput} {choices : List FileChoice}
    (hguard : OwnManifest cfg s (.call input choices)) : Sound cfg (chunkStep cfg s (.call input choices)) := by
  unfold chunkStep
  dsimp only
  cases haccept : acceptChunk cfg input with
  | error e => exact hs
  | ok p =>
    have hid := p.manifest.valid_id
    have hrun := (safe_receive (layout_of_accept haccept) hs.honest (hguard p haccept)).run (crash_refl hs.honest)
        choices
    dsimp only
    generalize (p.receive cfg).run fileStep choices s.incoming = result at hrun
    obtain ⟨d, outcome⟩ := result
    -- a call without a receipt
    have hfailed : Crash cfg p.manifest.artifactId s.incoming d → Sound cfg
        { s with
          incoming := d
          delivered := if d.isFile p.manifest.manifestName = true then
            s.delivered.filter (fun e => e.artifactId ≠ p.manifest.artifactId)
            else s.delivered } := fun hcrash =>
      ⟨hcrash.honest_all hs.honest, live_after hcrash hs.live, hs.answers⟩
    cases outcome with
    | none => exact hfailed hrun
    | some result =>
      obtain ⟨hcrash, hfacts⟩ := hrun
      cases result with
      | error e => exact hfailed hcrash
      | ok receipt =>
        have hfacts := hfacts receipt rfl
        refine ⟨hcrash.honest_all hs.honest, ?_, fun a ha => ?_⟩
        · dsimp only
          have hlive := live_after hcrash hs.live
          by_cases hfile : d.isFile p.manifest.manifestName = true
          · rw [if_pos hfile]
            intro e he
            exact hlive e (by rw [if_pos (by exact hfile)]; exact he)
          · rw [if_neg hfile]
            intro e he
            rcases List.mem_append.mp he with he | he
            · exact hlive e (by rw [if_neg (by exact hfile)]; exact he)
            · rw [List.mem_singleton.mp he]
              exact ⟨hid, (Bool.not_eq_true _).mp hfile, hfacts.part ((Bool.not_eq_true _).mp hfile)⟩
        · rcases List.mem_append.mp ha with ha | ha
          · exact hs.answers a ha
          · rw [List.mem_singleton.mp ha]
            refine ⟨hfacts.complete, fun data hdata hall => hfacts.whole data hdata (fun i chunk hi => ?_)⟩
            rcases hall i chunk hi with hmem | hnew
            · exact .inl (hs.live _ hmem).part
            · exact .inr hnew

/-- Files may go: a manifest before its artifact, and a session with its deliveries. -/
lemma sound_remove (hs : Sound cfg s) {delivered : List Delivery}
    (hfiles : ∀ id, isArtifactId id = true →
      (d (nameOf id .manifest) = s.incoming (nameOf id .manifest) ∧
        d (nameOf id .artifact) = s.incoming (nameOf id .artifact)) ∨
        d (nameOf id .manifest) = none)
    (hsessions : ∀ e ∈ delivered, e ∈ s.delivered ∧
      (isArtifactId e.artifactId = true → d (nameOf e.artifactId .session) =
        s.incoming (nameOf e.artifactId .session))) :
    Sound cfg { s with incoming := d, delivered := delivered } := by
  refine ⟨fun id hid content hread => ?_, fun e he => ?_, hs.answers⟩
  · rcases hfiles id hid with ⟨hmanifest, hartifact⟩ | hnone
    · dsimp only at hread
      rw [read_top_congr hmanifest] at hread
      obtain ⟨m, rfl, hcontent, data, hdata, hm⟩ := hs.honest id hid content hread
      exact ⟨m, rfl, hcontent, data, (read_top_congr hartifact).trans hdata, hm⟩
    · dsimp only at hread
      unfold Incoming.read at hread
      dsimp only at hread
      rw [hnone] at hread
      cases hread
  · obtain ⟨hmem, hsession⟩ := hsessions e he
    have hlive := hs.live e hmem
    refine ⟨hlive.valid, ?_, (read_inside_congr (hsession hlive.valid)).trans hlive.part⟩
    rcases hfiles _ hlive.valid with ⟨hmanifest, -⟩ | hnone
    · exact (isFile_congr hmanifest).trans hlive.running
    · unfold Incoming.isFile
      dsimp only
      rw [hnone]

/-- Removing an expired manifest, and its artifact with it. -/
lemma sound_expireManifest (hs : Sound cfg s) (artifactId : String) (both : Bool) :
    Sound cfg (chunkStep cfg s (.expireManifest artifactId both)) := by
  have hother : ∀ (id : String) (k : Kind), isArtifactId id = true → (id ≠ artifactId ∨ k = .session) → k ≠ .temporary →
      nameOf id k ≠ nameOf artifactId .manifest ∧ nameOf id k ≠ nameOf artifactId .artifact := by
    intro id k _ hcase hk
    refine ⟨fun hname => ?_, fun hname => ?_⟩
    · obtain ⟨heq, hkind⟩ := nameOf_manifest hname.symm
      rcases hcase with hne | hsession
      · exact hne heq.symm
      · rw [hsession] at hkind
        cases hkind
    · cases k with
      | manifest => cases (nameOf_manifest hname).2
      | artifact => exact hcase.elim (fun hne => hne (append_right hname)) (fun h => by cases h)
      | temporary => exact hk rfl
      | session => cases (nameOf_session hname).2
  have hstep : chunkStep cfg s (.expireManifest artifactId both) =
      { s with
        incoming :=
          if both = true then
            Function.update (Function.update s.incoming (nameOf artifactId .manifest) none)
              (nameOf artifactId .artifact) none
          else Function.update s.incoming (nameOf artifactId .manifest) none } := rfl
  have hne : nameOf artifactId .manifest ≠ nameOf artifactId .artifact :=
    fun hname => by cases (nameOf_manifest hname).2
  rw [hstep]
  apply sound_remove hs
  · intro id hid
    by_cases hida : id = artifactId
    · right
      subst hida
      split
      · rw [Function.update_of_ne hne, Function.update_self]
      · rw [Function.update_self]
    · left
      have hmanifest := hother id .manifest hid (.inl hida) (by decide)
      have hartifact := hother id .artifact hid (.inl hida) (by decide)
      split
      · rw [Function.update_of_ne hmanifest.2, Function.update_of_ne hmanifest.1, Function.update_of_ne hartifact.2,
          Function.update_of_ne hartifact.1]
        exact ⟨rfl, rfl⟩
      · rw [Function.update_of_ne hmanifest.1, Function.update_of_ne hartifact.1]
        exact ⟨rfl, rfl⟩
  · intro e he
    refine ⟨he, fun hid => ?_⟩
    have hsession := hother e.artifactId .session hid (.inr rfl) (by decide)
    split
    · rw [Function.update_of_ne hsession.2, Function.update_of_ne hsession.1]
    · rw [Function.update_of_ne hsession.1]

lemma thin_of_ne {name name' : String} (h : name' ≠ name) (survive : String → Bool) :
    d.thin name survive name' = d name' := by
  have hthin : d.thin name survive = d ∨ ∃ node, d.thin name survive = Function.update d name node := by
    unfold Incoming.thin
    split
    · exact .inr ⟨_, rfl⟩
    · exact .inl rfl
  rcases hthin with heq | ⟨node, heq⟩
  · rw [heq]
  · rw [heq, Function.update_of_ne h]

/-- Removing an expired session, or a part of it. -/
lemma sound_expireSession (hs : Sound cfg s) (artifactId : String) (survive : Option (String → Bool)) :
    Sound cfg (chunkStep cfg s (.expireSession artifactId survive)) := by
  have hnode : ∀ (name : String), name ≠ nameOf artifactId .session →
      (chunkStep cfg s (.expireSession artifactId survive)).incoming name = s.incoming name := by
    intro name hname
    cases survive with
    | none => exact Function.update_of_ne hname _ _
    | some survive => exact thin_of_ne hname survive
  apply sound_remove hs
  · intro id _
    left
    exact ⟨hnode _ (fun hname => by cases (nameOf_manifest hname).2),
      hnode _ (fun hname => by cases (nameOf_session hname.symm).2)⟩
  · intro e he
    obtain ⟨hmem, hne⟩ := List.mem_filter.mp he
    refine ⟨hmem, fun _ => hnode _ (fun hname => ?_)⟩
    exact absurd (nameOf_session hname).1 (by simpa using hne)

end

lemma sound_of_reachable {s : ChunkState} (h : (chunkMachine cfg).ReachableUnder (OwnManifest cfg) s) :
    Sound cfg s := by
  apply h.invariant (I := Sound cfg)
  · rintro s rfl
    exact ⟨fun id _ content hread => (by cases hread), fun e he => (by cases he), fun a ha => (by cases ha)⟩
  · intro s action hs hguard
    cases action with
    | call input choices => exact sound_call hs hguard
    | expireManifest artifactId both => exact sound_expireManifest hs artifactId both
    | expireSession artifactId survive => exact sound_expireSession hs artifactId survive

/-- In a run in which every call finds under the name of its manifest at most its own complete manifest, a receipt
says complete only over the stored artifact and manifest, and the receipt for the last chunk of an artifact is over
the stored artifact. -/
theorem receipts_kept (cfg : ChunkConfig) {s : ChunkState} (h : (chunkMachine cfg).ReachableUnder (OwnManifest cfg) s) :
    ∀ a ∈ s.answers,
      (a.receipt.complete = true → ∃ data,
        a.incoming.read (.top a.request.manifest.artifactName) = some data ∧ data.length = a.request.manifest.byteSize ∧
        a.request.manifest.artifactSha256 = some (.str (cfg.sha256 data)) ∧
        a.incoming.read (.top a.request.manifest.manifestName) = some (a.request.manifest.bytes cfg)) ∧
      ∀ data, data.length = a.request.manifest.byteSize → a.request.manifest.artifactSha256 = some
        (.str (cfg.sha256 data)) →
        (∀ i chunk, (Stream.reads a.request.chunkBytes data)[i]? = some chunk →
          ⟨a.request.manifest.artifactId, i, chunk⟩ ∈ a.delivered ∨
            (i = a.request.chunkIndex ∧ chunk = a.request.chunk)) →
        a.incoming.read (.top a.request.manifest.artifactName) = some data := by
  intro a ha
  have hkept := (sound_of_reachable h).answers a ha
  constructor
  · intro hcomplete
    obtain ⟨data, hc⟩ := hkept.complete hcomplete
    exact ⟨data, hc.artifact, hc.describes.1, hc.describes.2, hc.manifest⟩
  · intro data hsize hsha hall
    exact hkept.whole data ⟨hsize, hsha⟩ hall

/-! ### Another manifest of a finished artifact -/

lemma sampleManifest_keyed (size : Nat) (digest : String) :
    keyed (.obj [("artifact_id", .str "a"), ("byte_size", .int size), ("artifact_sha256", .str digest)]) = true := by
  rw [keyed_obj, List.forall_mem_cons, List.forall_mem_cons, List.forall_mem_cons]
  exact ⟨by simp, rfl, rfl, rfl, fun _ h => (by cases h)⟩

/-- The artifact `a`. -/
def sampleManifest (size : Nat) (digest : String) : { x : Entries // keyed (.obj x) = true } :=
  ⟨[("artifact_id", .str "a"), ("byte_size", .int size), ("artifact_sha256", .str digest)],
    sampleManifest_keyed size digest⟩

def sampleEncode (x : Document) : Bytes := utf8Encode (JsonText.write JsonText.Floats.fractions x)

lemma sampleEncode_complete (x y : Entries) (hx : keyed (.obj x) = true) (hy : keyed (.obj y) = true)
    (h : sampleEncode (Document.obj x).sorted <+: sampleEncode (Document.obj y).sorted) :
      (Document.obj x).sorted = (Document.obj y).sorted := by
  have hx' := keyed_sorted _ hx
  have hy' := keyed_sorted _ hy
  have htext := utf8Encode_begins h
  rw [sorted_obj, sorted_obj] at htext ⊢
  rw [sorted_obj] at hx' hy'
  rw [JsonText.write_object_complete hx' hy' htext]

def sampleBytes (size : Nat) (digest : String) : Bytes :=
  sampleEncode (Document.obj (sampleManifest size digest).1).sorted

def firstDigest : String := "ca358758f6d27e6cf45272937977a748fd88391db679ceda7dc7bf1f005ee879"

def secondDigest : String := "0000000000000000000000000000000000000000000000000000000000000000"

/-- An artifact of three chunks. -/
def wholeDigest : String := "498ea5af393b598d899264eac1c3a1fb8d6a71738e273c97a52f649c46e3ac07"

def wholeChunks : List (Bytes × String) :=
  [(List.replicate 4096 7, "c9ac7b0624824f844f6c7f3d50fab9741a8914e878467e8daaedca143a34d90b"),
    (List.replicate 4096 8, "1e640ad0fd3b249a835edf54dd802b9a4be0b093b17db2c60be2dd9c6b6c6ebf"),
    ([9], "2b4c342f5433ebe591a1da77e013d1b72475562d48578dca8b84bac6651c3cb9")]

/-- The digests of the artifacts, their chunks and their manifests. -/
def sampleDigests : List (Bytes × String) :=
  wholeChunks ++ [((wholeChunks.map Prod.fst).flatten, wholeDigest), ([7], firstDigest),
    (sampleBytes 1 firstDigest, "092f01cc504f831e281d71cedeaf33268294fdc99b5622f5768d248c07556535"),
    (sampleBytes 1 secondDigest, "f52364c815f8076ef2ff7b45b6b7d566417a7ab8516b6302a20aa3d8120c3727"),
    (sampleBytes 8193 wholeDigest, "d914f7e73700bf9dea1e0928508f2a97dcb77dbb6127639845ca9a62d948c64e")]

def sampleConfig : ChunkConfig where
  toCodec := Codec.plain
  encode := sampleEncode
  encode_complete := sampleEncode_complete
  readJson content := JsonText.loads JsonText.Floats.fractions (content.map Char.ofUInt8)
  sha256 := Digest.ofTable sampleDigests
  sha256_injective := Digest.ofTable_injective (by decide +kernel) (by decide +kernel)
  otherChecks _ := true
  maxIncomingFiles := 1000
  maxIncomingBytes := 1000000

def sampleInput (digest : String) : ChunkInput where
  manifest := sampleManifest 1 digest
  encrypted := true
  chunkIndex := 0
  chunkCount := 1
  chunkBytes := 4096
  chunkSha256 := firstDigest
  chunk := [7]

/-- An operation that does not fail. -/
def calm : FileChoice := ⟨.none, 0, 0, 0, fun _ => true⟩

def sampleCall (input : ChunkInput) : ChunkAction := .call input (List.replicate 16 calm)

/-- A finished artifact is reported complete to a manifest of the same artifact id with another digest. -/
theorem other_manifest_complete :
    ∃ s, (chunkMachine sampleConfig).Reachable s ∧ ∃ a ∈ s.answers, a.receipt.complete = true ∧
      a.request.manifest.artifactSha256 = some (.str secondDigest) ∧
      a.incoming.read (.top a.request.manifest.artifactName) = some [7] ∧
      a.incoming.read (.top a.request.manifest.manifestName) ≠ some (a.request.manifest.bytes sampleConfig) := by
  refine ⟨_, @Machine.reachable_foldl _ _ (chunkMachine sampleConfig) ⟨fun _ => none, [], []⟩ rfl
    [sampleCall (sampleInput firstDigest), sampleCall (sampleInput secondDigest)], ?_⟩
  decide +kernel

def wholeInput (index : Nat) : ChunkInput where
  manifest := sampleManifest 8193 wholeDigest
  encrypted := true
  chunkIndex := index
  chunkCount := 3
  chunkBytes := 4096
  chunkSha256 := (wholeChunks.getD index ([], "")).2
  chunk := (wholeChunks.getD index ([], "")).1

/-- The state after the chunks with these indexes. -/
def wholeRun (indexes : List Nat) : ChunkState :=
  (indexes.map (fun i => sampleCall (wholeInput i))).foldl (chunkMachine sampleConfig).step ⟨fun _ => none, [], []⟩

/-- The calls are accepted, there is no manifest before the last one, and its receipt is complete. -/
lemma whole_fields :
    (∀ index ∈ [0, 1, 2], (acceptChunk sampleConfig (wholeInput index)).toOption.map
      (fun p => p.manifest.manifestName) = some "a.json") ∧
    (∀ indexes ∈ [[2], [2, 0], [2, 0, 2]], ((wholeRun indexes).incoming.read (.top "a.json")).isNone = true) ∧
    (wholeRun [2, 0, 2, 1]).answers.getLast?.map (fun a => (a.receipt.complete, a.receipt.chunkIndex,
      a.delivered.map Delivery.index, a.request.manifest.artifactName, a.request.manifest.artifactSha256)) =
        some (true, 1, [2, 0, 2], "a.artifact", some (.str wholeDigest)) := by
  decide +kernel

/-- A chunk that comes before there is a manifest. -/
lemma own_of_free {state : ChunkState} {index : Nat} (hfree : (state.incoming.read (.top "a.json")).isNone = true)
    (hindex : index ∈ [0, 1, 2]) :
    OwnManifest sampleConfig state (sampleCall (wholeInput index)) := by
  intro p hp content hread
  have hname := whole_fields.1 index hindex
  rw [hp] at hname
  have hname : p.manifest.manifestName = "a.json" := Option.some.inj hname
  rw [hname] at hread
  rw [hread] at hfree
  cases hfree

lemma whole_next {indexes next : List Nat} {index : Nat}
    (h : (chunkMachine sampleConfig).ReachableUnder (OwnManifest sampleConfig) (wholeRun indexes))
    (hfree : ((wholeRun indexes).incoming.read (.top "a.json")).isNone = true) (hindex : index ∈ [0, 1, 2])
    (hnext : next = indexes ++ [index]) :
    (chunkMachine sampleConfig).ReachableUnder (OwnManifest sampleConfig) (wholeRun next) := by
  obtain ⟨actions, hrun⟩ := h
  have hstep := Machine.Run.next hrun (own_of_free hfree hindex)
  unfold wholeRun
  rw [hnext, List.map_append, List.foldl_append]
  exact ⟨_, hstep⟩

lemma whole_reachable : (chunkMachine sampleConfig).ReachableUnder (OwnManifest sampleConfig)
    (wholeRun [2, 0, 2, 1]) := by
  have hstart : (chunkMachine sampleConfig).ReachableUnder (OwnManifest sampleConfig) (wholeRun []) := ⟨[], .start rfl⟩
  have hfirst := @whole_next [] [2] 2 hstart rfl (by decide) rfl
  have hsecond := @whole_next [2] [2, 0] 0 hfirst (whole_fields.2.1 [2] (by simp)) (by decide) rfl
  have hthird := @whole_next [2, 0] [2, 0, 2] 2 hsecond (whole_fields.2.1 [2, 0] (by simp)) (by decide) rfl
  exact @whole_next [2, 0, 2] [2, 0, 2, 1] 1 hthird (whole_fields.2.1 [2, 0, 2] (by simp)) (by decide) rfl

/-- The last chunk, the first one, the last one again and the one between them: the receipt of the fourth call is
complete, and the stored artifact is the concatenation of the three. -/
theorem three_chunks_complete :
    ∃ a ∈ (wholeRun [2, 0, 2, 1]).answers, a.receipt.complete = true ∧ a.receipt.chunkIndex = 1 ∧
    a.delivered.map Delivery.index = [2, 0, 2] ∧
      a.incoming.read (.top "a.artifact") = some (wholeChunks.map Prod.fst).flatten := by
  have hwhole : sampleConfig.sha256 (wholeChunks.map Prod.fst).flatten = wholeDigest := by decide +kernel
  obtain ⟨a, ha, hfields⟩ := Option.map_eq_some_iff.mp whole_fields.2.2
  obtain ⟨hcomplete, hindex, hdelivered, hname, hdigest⟩ : a.receipt.complete = true ∧ a.receipt.chunkIndex = 1 ∧
      a.delivered.map Delivery.index = [2, 0, 2] ∧ a.request.manifest.artifactName = "a.artifact" ∧
      a.request.manifest.artifactSha256 = some (.str wholeDigest) := by simpa using hfields
  have hmem := List.mem_of_getLast? ha
  obtain ⟨data, hread, -, hsha, -⟩ := (receipts_kept sampleConfig whole_reachable a hmem).1 hcomplete
  rw [hdigest] at hsha
  have hdata : data = (wholeChunks.map Prod.fst).flatten :=
    sampleConfig.sha256_injective ((Document.str.inj (Option.some.inj hsha)).symm.trans hwhole.symm)
  rw [hname, hdata] at hread
  exact ⟨a, hmem, hcomplete, hindex, hdelivered, hread⟩

end Noyra.Migration.Chunks.Proofs
