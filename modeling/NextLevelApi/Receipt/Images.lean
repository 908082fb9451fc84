import NextLevelApi.Receipt.Interleaving

/-!
# The images of receipts

Every receipt row names an image that is in the bucket, under a key made for the user of the
row. A call that cleans up holds a key that no row names: it has not committed, and nobody
else ever gets its key.
-/

namespace NextLevelApi
open ThreadPool

def MadeFor (uuids : List Uuid) (userId : ℕ) (key : String) : Prop :=
  ∃ now id ext, id ∈ uuids ∧ key = AwsS3Service.makeKey now id userId ext

lemma MadeFor.mono {uuids uuids' : List Uuid} {userId : ℕ} {key : String} (h : MadeFor uuids userId key)
    (hsub : uuids ⊆ uuids') : MadeFor uuids' userId key := by
  obtain ⟨now, id, ext, hid, hkey⟩ := h
  exact ⟨now, id, ext, hsub hid, hkey⟩

lemma MadeFor.ne_fresh {uuids : List Uuid} {userId userId' now : ℕ} {key ext : String} {id : Uuid}
    (h : MadeFor uuids userId key) (hfresh : id ∉ uuids) :
    key ≠ AwsS3Service.makeKey now id userId' ext := by
  rintro rfl
  obtain ⟨now', id', ext', hid, hkey⟩ := h
  obtain ⟨-, rfl⟩ := AwsS3Service.makeKey_inj hkey
  exact hfresh hid

structure Stores.ImagesSound (stores : Stores) (uuids : List Uuid) : Prop where
  stored : ∀ row ∈ stores.receipts, (stores.bucket row.s3Key).isSome
  made : ∀ row ∈ stores.receipts, ∃ userId : ℕ, row.userId.val = userId ∧ MadeFor uuids userId row.s3Key
  distinct : stores.receipts.Pairwise fun a b => a.s3Key ≠ b.s3Key

/-- The key that a call holds: it may still put, save or delete the image under this key. -/
def ReceiptCall.key : ReceiptCall → Option String
  | .scan _ _ (.putting key _) => some key
  | .scan _ _ (.uploaded key) => some key
  | .scan _ _ (.ocrReplied key _) => some key
  | .scan _ _ (.validated key _) => some key
  | .scan _ _ (.inserted key _ _) => some key
  | .scan _ _ (.linesInserted key _ _ _) => some key
  | .scan _ _ (.cleaning key _) => some key
  | _ => none

def ReceiptCall.NeedsImage : ReceiptCall → Prop
  | .scan _ _ (.uploaded _) => True
  | .scan _ _ (.ocrReplied _ _) => True
  | .scan _ _ (.validated _ _) => True
  | .scan _ _ (.inserted _ _ _) => True
  | .scan _ _ (.linesInserted _ _ _ _) => True
  | _ => False

structure ReceiptCall.ImageHeld (s : ReceiptState) (call : ReceiptCall) : Prop where
  made : ∀ key, call.key = some key → MadeFor s.uuids call.userId key
  unreferenced : ∀ key, call.key = some key → ∀ row ∈ s.stores.receipts, row.s3Key ≠ key
  stored : ∀ key, call.key = some key → call.NeedsImage → (s.stores.bucket key).isSome
  pending : ∀ row, call.pendingRow = some row → call.key = some row.s3Key ∧ row.userId.val = call.userId

section Steps

variable {env : ReceiptEnv} {s3 : S3Env} {s s' : ReceiptState} {c c' : ReceiptCall}

/-- A step keeps the key it holds, gives it up, or makes one with a fresh UUID. -/
lemma ReceiptMove.key_cases (h : ReceiptMove env s3 s c s' c') : c'.key = none ∨ c'.key = c.key ∨
    ∃ now id ext, id ∉ s.uuids ∧ c'.key = some (AwsS3Service.makeKey now id c.userId ext) := by
  cases h with
  | upload now hfresh h =>
    obtain ⟨f, -, -, rfl, -⟩ := AwsS3Service.upload.command_ok.mp h
    exact .inr (.inr ⟨_, _, _, hfresh, rfl⟩)
  | transactionFails hphase e => exact .inl rfl
  | _ => first | exact .inl rfl | exact .inr (.inl rfl)

/-- What a step does to the rows and the bucket: it commits the row it has pending, puts or
deletes the image under its own key, or leaves both alone. -/
lemma ReceiptMove.stores_cases (h : ReceiptMove env s3 s c s' c') : s'.stores = s.stores ∨
    (∃ key object, c.key = some key ∧ s'.stores = s.stores.put key object) ∨
    (∃ key, c.key = some key ∧ s'.stores = s.stores.delete key) ∨
    ∃ row lines, c.pendingRow = some row ∧ c.NeedsImage ∧ s'.stores = s.stores.commit row lines := by
  cases h with
  | put => exact .inr (.inl ⟨_, _, rfl, rfl⟩)
  | cleanup => exact .inr (.inr (.inl ⟨_, rfl, rfl⟩))
  | commit => exact .inr (.inr (.inr ⟨_, _, rfl, trivial, rfl⟩))
  | _ => exact .inl rfl

lemma ReceiptMove.uuids_subset (h : ReceiptMove env s3 s c s' c') : s.uuids ⊆ s'.uuids := by
  cases h with
  | upload now hfresh h => exact List.subset_cons_self _ _
  | presign now hfresh h => exact List.subset_cons_self _ _
  | _ => exact List.Subset.refl _

lemma ReceiptCall.key_of_pendingRow {row : Receipt} (h : c.pendingRow = some row) : c.key ≠ none := by
  rcases c with ⟨_, _, phase⟩ | _
  · cases phase <;> first | simp [ReceiptCall.key]; done | exact absurd h (by simp [ReceiptCall.pendingRow])
  · exact absurd h (by simp [ReceiptCall.pendingRow])

lemma ReceiptCall.imageHeld_of_key_eq_none (h : c.key = none) : c.ImageHeld s := by
  have hnone : ∀ key, c.key ≠ some key := by simp [h]
  exact ⟨fun key hkey => absurd hkey (hnone key), fun key hkey => absurd hkey (hnone key),
    fun key hkey => absurd hkey (hnone key), fun row hrow => absurd h (ReceiptCall.key_of_pendingRow hrow)⟩

/-- What others do to the rows and the bucket as long as they leave one key alone. -/
lemma ReceiptCall.ImageHeld.frame (h : c.ImageHeld s) (huuids : s.uuids ⊆ s'.uuids)
    (hrows : ∀ key, c.key = some key → ∀ row ∈ s'.stores.receipts,
      row ∈ s.stores.receipts ∨ row.s3Key ≠ key)
    (hbucket : ∀ key, c.key = some key → (s.stores.bucket key).isSome → (s'.stores.bucket key).isSome) :
    c.ImageHeld s' := by
  refine ⟨fun key hkey => (h.made key hkey).mono huuids, ?_,
    fun key hkey hneeds => hbucket key hkey (h.stored key hkey hneeds), h.pending⟩
  intro key hkey row hrow
  rcases hrows key hkey row hrow with hold | hne
  · exact h.unreferenced key hkey row hold
  · exact hne

lemma Stores.bucket_put {stores : Stores} {key key' : String} {object : S3Object}
    (h : (stores.bucket key).isSome) : ((stores.put key' object).bucket key).isSome := by
  by_cases hkey : key = key'
  · subst hkey
    simp [Stores.put]
  · simpa [Stores.put, Function.update_of_ne hkey] using h

lemma Stores.bucket_delete {stores : Stores} {key key' : String} (hne : key ≠ key') :
    (stores.delete key').bucket key = stores.bucket key := Function.update_of_ne hne _ _

lemma ReceiptCall.ImageHeld.next (h : c.ImageHeld s) (hstores : s'.stores = s.stores)
    (huuids : s'.uuids = s.uuids) (hkey : c'.key = c.key) (huser : c'.userId = c.userId)
    (hneeds : c'.NeedsImage → c.NeedsImage)
    (hpending : ∀ row, c'.pendingRow = some row → c'.key = some row.s3Key ∧ row.userId.val = c'.userId) :
    c'.ImageHeld s' := by
  refine ⟨?_, ?_, ?_, hpending⟩
  · rw [hkey, huuids, huser]
    exact h.made
  · rw [hkey, hstores]
    exact h.unreferenced
  · rw [hkey, hstores]
    exact fun key hkey hneeds' => h.stored key hkey (hneeds hneeds')

lemma ReceiptMove.imageHeld (h : ReceiptMove env s3 s c s' c') (hs : s.stores.ImagesSound s.uuids)
    (hc : c.ImageHeld s) : c'.ImageHeld s' := by
  have hnone : ∀ {row : Receipt}, none ≠ some row := by simp
  cases h with
  | upload now hfresh h =>
    obtain ⟨f, -, -, rfl, -⟩ := AwsS3Service.upload.command_ok.mp h
    refine ⟨?_, ?_, fun _ _ h => h.elim, fun _ h => absurd h hnone⟩
    · rintro _ ⟨⟩
      exact ⟨now, _, _, by simp, rfl⟩
    · rintro _ ⟨⟩ row hrow
      obtain ⟨userId, -, hmade⟩ := hs.made row hrow
      exact hmade.ne_fresh hfresh
  | put =>
    refine ⟨hc.made, hc.unreferenced, ?_, fun _ h => absurd h hnone⟩
    rintro _ ⟨⟩ -
    simp [Stores.put]
  | ocr raw => exact hc.next rfl rfl rfl rfl id fun _ h => absurd h hnone
  | ocrFails => exact hc.next rfl rfl rfl rfl False.elim fun _ h => absurd h hnone
  | validate h => exact hc.next rfl rfl rfl rfl id fun _ h => absurd h hnone
  | invalid h => exact hc.next rfl rfl rfl rfl False.elim fun _ h => absurd h hnone
  | insertReceipt hfresh h =>
    obtain ⟨-, -, huser, hkey⟩ := NewReceipt.insert_ok h
    refine hc.next rfl rfl rfl rfl id ?_
    rintro _ ⟨⟩
    exact ⟨congrArg some hkey.symm, huser⟩
  | insertLines hlines h hfresh hsorted => exact hc.next rfl rfl rfl rfl id hc.pending
  | _ => exact ReceiptCall.imageHeld_of_key_eq_none rfl

lemma ReceiptMove.imagesSound (h : ReceiptMove env s3 s c s' c') (hs : s.stores.ImagesSound s.uuids)
    (hc : c.ImageHeld s) : s'.stores.ImagesSound s'.uuids := by
  have hmade : ∀ row ∈ s.stores.receipts,
      ∃ userId : ℕ, row.userId.val = userId ∧ MadeFor s'.uuids userId row.s3Key := by
    intro row hrow
    obtain ⟨userId, huser, hmade⟩ := hs.made row hrow
    exact ⟨userId, huser, hmade.mono h.uuids_subset⟩
  rcases h.stores_cases with heq | ⟨key, object, -, heq⟩ | ⟨key, hkey, heq⟩ |
    ⟨row, lines, hrow, hneeds, heq⟩ <;> rw [heq]
  · exact ⟨hs.stored, hmade, hs.distinct⟩
  · exact ⟨fun row hrow => Stores.bucket_put (hs.stored row hrow), hmade, hs.distinct⟩
  · refine ⟨fun row hrow => ?_, hmade, hs.distinct⟩
    rw [Stores.bucket_delete (hc.unreferenced key hkey row hrow)]
    exact hs.stored row hrow
  · obtain ⟨hkey, huser⟩ := hc.pending row hrow
    have hmem : ∀ other ∈ (s.stores.commit row lines).receipts,
        other ∈ s.stores.receipts ∨ other = row := by
      intro other hother
      exact (List.mem_append.mp hother).imp id List.mem_singleton.mp
    refine ⟨fun other hother => ?_, fun other hother => ?_, ?_⟩
    · rcases hmem other hother with hold | rfl
      · exact hs.stored other hold
      · exact hc.stored _ hkey hneeds
    · rcases hmem other hother with hold | rfl
      · exact hmade other hold
      · exact ⟨_, huser, (hc.made _ hkey).mono h.uuids_subset⟩
    · refine List.pairwise_append.mpr ⟨hs.distinct, List.pairwise_singleton _ _, ?_⟩
      rintro other hother _ hlast
      obtain rfl := List.mem_singleton.mp hlast
      exact hc.unreferenced _ hkey other hother

/-- A step of one call leaves alone the key that another call holds. -/
lemma ReceiptMove.imageHeld_other {u : ReceiptCall} (h : ReceiptMove env s3 s c s' c') (hc : c.ImageHeld s)
    (hu : u.ImageHeld s) (hapart : ∀ key, c.key = some key → u.key ≠ some key) : u.ImageHeld s' := by
  rcases h.stores_cases with heq | ⟨key, object, -, heq⟩ | ⟨key, hkey, heq⟩ |
    ⟨row, lines, hrow, -, heq⟩ <;>
    refine hu.frame h.uuids_subset (fun key' hkey' other hother => ?_) (fun key' hkey' hstored => ?_) <;>
    rw [heq] at *
  · exact .inl hother
  · exact hstored
  · exact .inl hother
  · exact Stores.bucket_put hstored
  · exact .inl hother
  · have hne : key' ≠ key := by
      rintro rfl
      exact hapart _ hkey hkey'
    rwa [Stores.bucket_delete hne]
  · rcases List.mem_append.mp hother with hold | hlast
    · exact .inl hold
    · obtain rfl := List.mem_singleton.mp hlast
      exact .inr fun h => hapart _ (hc.pending _ hrow).1 (h ▸ hkey')
  · exact hstored

end Steps

def imageOutline (env : ReceiptEnv) (s3 : S3Env) : Outline (receiptSystem env s3) where
  inv s := s.stores.ImagesSound s.uuids
  asserts s c := c.ImageHeld s
  apart t u := ∀ key, t.key = some key → u.key ≠ some key
  apart_symm h key hu ht := h key ht hu
  start {s t} _ h := by
    obtain ⟨file, userId, rfl⟩ | ⟨userId, mimeType, ext, rfl⟩ := h <;>
      exact ReceiptCall.imageHeld_of_key_eq_none rfl
  start_apart {s t u} _ h _ := by
    obtain ⟨file, userId, rfl⟩ | ⟨userId, mimeType, ext, rfl⟩ := h <;>
      exact fun _ h => absurd h (by simp [ReceiptCall.key])
  ambient {s s'} hs h := by
    obtain ⟨key, object, rfl⟩ := h
    refine ⟨⟨fun row hrow => Stores.bucket_put (hs.stored row hrow), hs.made, hs.distinct⟩, fun t ht => ?_⟩
    exact ht.frame (List.Subset.refl _) (fun _ _ _ hrow => .inl hrow) (fun _ _ h => Stores.bucket_put h)
  move hs hc h := ⟨h.imagesSound hs hc, h.imageHeld hs hc⟩
  frame {s t u s' t'} hs ht hu hapart _ h := by
    refine ⟨h.imageHeld_other ht hu hapart, ?_⟩
    rcases h.key_cases with hnone | hkey | ⟨now, id, ext, hfresh, hkey⟩
    · simp [hnone]
    · rwa [hkey]
    · intro key ht' hu'
      obtain rfl := Option.some.inj (hkey.symm.trans ht')
      exact (hu.made _ hu').ne_fresh hfresh rfl

/-- What is kept of the images in every state. -/
structure ImagesKept (p : Pool ReceiptState ReceiptCall) : Prop where
  stored : ∀ row ∈ p.shared.stores.receipts, ∃ object, p.shared.stores.bucket row.s3Key = some object
  made : ∀ row ∈ p.shared.stores.receipts,
    ∃ userId : ℕ, row.userId.val = userId ∧ MadeFor p.shared.uuids userId row.s3Key
  owner : ∀ row ∈ p.shared.stores.receipts, ∀ now id (userId : ℕ) ext,
    row.s3Key = AwsS3Service.makeKey now id userId ext → row.userId.val = userId
  distinct : p.shared.stores.receipts.Pairwise fun a b => a.s3Key ≠ b.s3Key
  cleanup : ∀ (i : ℕ) file userId key e, p.threads[i]? = some (.scan file userId (.cleaning key e)) →
    ∀ row ∈ p.shared.stores.receipts, row.s3Key ≠ key

/-- In every reachable state each receipt has its image, under a key of its own that was made for
its user; what a call is about to clean up is the image of no receipt. -/
theorem imagesKept_run {env : ReceiptEnv} {s3 : S3Env} {bucket : Bucket} {p : Pool ReceiptState ReceiptCall}
    (hrun : Run (receiptSystem env s3) ⟨ReceiptState.initial bucket, []⟩ p) : ImagesKept p := by
  have hinitial : (ReceiptState.initial bucket).stores.ImagesSound (ReceiptState.initial bucket).uuids :=
    ⟨by simp [ReceiptState.initial], by simp [ReceiptState.initial], .nil⟩
  have hholds := (imageOutline env s3).holds_run ((imageOutline env s3).holds_empty hinitial) hrun
  have hsound : p.shared.stores.ImagesSound p.shared.uuids := hholds.inv
  refine ⟨?_, hsound.made, ?_, hsound.distinct, ?_⟩
  · intro row hrow
    exact Option.isSome_iff_exists.mp (hsound.stored row hrow)
  · intro row hrow now id userId ext hkey
    obtain ⟨userId', huser, now', id', ext', -, hmade⟩ := hsound.made row hrow
    obtain ⟨rfl, -⟩ := AwsS3Service.makeKey_inj (hkey.symm.trans hmade)
    exact huser
  · intro i file userId key e hcall
    have hheld : (ReceiptCall.scan file userId (.cleaning key e)).ImageHeld p.shared := hholds.asserts hcall
    exact hheld.unreferenced key rfl

/-- One scan has been saved, and another is about to clean up. -/
theorem imagesKept_run_saved : ∃ p saved,
    Run (receiptSystem Sample.receiptEnv Sample.s3) ⟨Sample.noImages, []⟩ p ∧
    p.threads = Sample.cleaning saved ∧ p.shared.stores.receipts = [saved] ∧ ImagesKept p := by
  obtain ⟨saved, row, s, -, -, hreceipts, -, -, hrun⟩ := Sample.cleaning_run Sample.s3
  exact ⟨_, saved, hrun, rfl, hreceipts, imagesKept_run hrun⟩

end NextLevelApi
