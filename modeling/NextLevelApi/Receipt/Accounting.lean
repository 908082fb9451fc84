import NextLevelApi.Library.Completion
import NextLevelApi.Receipt.Serializability
import Mathlib.Data.Fintype.EquivFin

/-!
# Where the objects of the bucket belong

Every object in the bucket was there before, was put by others, is the image of a receipt, is
in the hands of a scan that runs, or was left behind by a scan whose transaction failed or whose
cleanup failed. The rows of the table are the answers that the resolved scans have given. No
call waits for another: each ends after a few steps of its own.
-/

namespace NextLevelApi
open ThreadPool

/-- Every run of scans can be watched. -/
theorem watchedReceipts_run {env : ReceiptEnv} {s3 : S3Env} {p q : Pool ReceiptState ReceiptCall}
    (hrun : Run (receiptSystem env s3) p q) (record : BucketRecord) : ∃ record',
    Run (watchedReceipts env s3) ⟨(p.shared, record), p.threads⟩ ⟨(q.shared, record'), q.threads⟩ := by
  refine run_watched (fun s s' record h => ?_) hrun record
  obtain ⟨key, object, hput⟩ := h
  exact ⟨_, key, object, hput, rfl⟩

namespace ReceiptCall

/-- The call has put its image, and still has it in its hands. -/
def HoldsImage (call : ReceiptCall) (key : String) : Prop :=
  call.key = some key ∧ ∀ file userId object, call ≠ .scan file userId (.putting key object)

def savedRow : ReceiptCall → Option Receipt
  | scan _ _ (.resolved _ saved) => some saved
  | _ => none

def Ended : ReceiptCall → Prop
  | scan _ _ (.resolved _ _) => True
  | scan _ _ (.rejected _) => True
  | presign _ _ _ (.answered _) => True
  | presign _ _ _ (.rejected _) => True
  | _ => False

lemma Ended.key_eq_none {call : ReceiptCall} (h : call.Ended) : call.key = none := by
  rcases call with ⟨file, userId, phase⟩ | ⟨userId, mimeType, ext, phase⟩
  · cases phase <;> first | rfl | exact h.elim
  · rfl

end ReceiptCall

section Steps

variable {env : ReceiptEnv} {s3 : S3Env} {s s' : ReceiptState} {c c' : ReceiptCall} {key : String}

/-- An object that is new after a step is in the hands of the call that took it. -/
lemma ReceiptMove.new_object (h : ReceiptMove env s3 s c s' c') (hkey : (s'.stores.bucket key).isSome) :
    (s.stores.bucket key).isSome ∨ c'.HoldsImage key := by
  cases h with
  | @put file userId key' object =>
    by_cases hsame : key = key'
    · subst hsame
      exact .inr ⟨rfl, by simp⟩
    · exact .inl (by simpa [Stores.put, Function.update_of_ne hsame] using hkey)
  | @cleanup file userId key' e =>
    by_cases hsame : key = key'
    · subst hsame
      exact absurd hkey (by simp [Stores.delete])
    · exact .inl (by simpa [Stores.bucket_delete hsame] using hkey)
  | _ => exact .inl hkey

/-- Where an object gets that was in the hands of a call. -/
lemma ReceiptMove.held_object (h : ReceiptMove env s3 s c s' c') (hc : c.Valid) (hheld : c.HoldsImage key)
    (hkey : (s'.stores.bucket key).isSome) : c'.HoldsImage key ∨
      (∃ row ∈ s'.stores.receipts, row.s3Key = key) ∨ key ∈ c.leaves s'.stores c' := by
  obtain ⟨hown, hput⟩ := hheld
  cases h with
  | put =>
    obtain rfl := Option.some.inj hown
    exact absurd rfl (hput _ _ _)
  | putFails e =>
    obtain rfl := Option.some.inj hown
    exact absurd rfl (hput _ _ _)
  | commit =>
    have hsaved : some key = some _ := hown.symm.trans (hc _ rfl)
    exact .inr (.inl ⟨_, List.mem_append_right _ (List.mem_singleton_self _), (Option.some.inj hsaved).symm⟩)
  | @transactionFails file userId phase hphase e =>
    cases phase <;> first
      | exact hphase.elim
      | exact .inr (.inr (List.mem_singleton.mpr (Option.some.inj hown).symm))
  | cleanup =>
    obtain rfl := Option.some.inj hown
    exact absurd hkey (by simp [Stores.delete])
  | cleanupFails =>
    obtain rfl := Option.some.inj hown
    exact .inr (.inr (by simp [ReceiptCall.leaves, hkey]))
  | ocr raw => exact .inl ⟨hown, by simp⟩
  | ocrFails => exact .inl ⟨hown, by simp⟩
  | validate h => exact .inl ⟨hown, by simp⟩
  | invalid h => exact .inl ⟨hown, by simp⟩
  | insertReceipt hfresh h => exact .inl ⟨hown, by simp⟩
  | insertLines hlines h hfresh hsorted => exact .inl ⟨hown, by simp⟩
  | _ => exact absurd hown (by simp [ReceiptCall.key])

end Steps

/-- Where each object of the bucket and each row of the table belongs. -/
structure Accounted (bucket : Bucket) (p : Pool (ReceiptState × BucketRecord) ReceiptCall) : Prop where
  objects : ∀ key, (p.shared.1.stores.bucket key).isSome → (bucket key).isSome ∨ key ∈ p.shared.2.others ∨
    (∃ row ∈ p.shared.1.stores.receipts, row.s3Key = key) ∨ (∃ call ∈ p.threads, call.HoldsImage key) ∨
    key ∈ p.shared.2.left
  rows : p.shared.1.stores.receipts.Perm (p.threads.filterMap ReceiptCall.savedRow)

section Runs

variable {env : ReceiptEnv} {s3 : S3Env} {bucket : Bucket}
  {p q : Pool (ReceiptState × BucketRecord) ReceiptCall}

lemma savedRow_eq (call : ReceiptCall) : call.isResolved = true ↔ call.savedRow.isSome := by
  rcases call with ⟨file, userId, phase⟩ | ⟨userId, mimeType, ext, phase⟩
  · cases phase <;> simp [ReceiptCall.isResolved, ReceiptCall.savedRow]
  · simp [ReceiptCall.isResolved, ReceiptCall.savedRow]

lemma filterMap_savedRow (calls : List ReceiptCall) : calls.filterMap ReceiptCall.savedRow =
    (calls.filter ReceiptCall.isResolved).filterMap ReceiptCall.savedRow := by
  rw [List.filterMap_filter]
  refine List.filterMap_congr fun call _ => ?_
  by_cases hcall : call.isResolved = true
  · rw [if_pos hcall]
  · rw [if_neg hcall, ← Option.not_isSome_iff_eq_none, ← savedRow_eq]
    exact hcall

lemma Accounted.move {i : ℕ} {call call' : ReceiptCall} {s' : ReceiptState} (h : Accounted bucket p)
    (hvalid : call.Valid) (hi : p.threads[i]? = some call)
    (hmove : ReceiptMove env s3 p.shared.1 call s' call') :
    Accounted bucket ⟨(s', { p.shared.2 with left := call.leaves s'.stores call' ++ p.shared.2.left }),
      p.threads.set i call'⟩ := by
  have hset : call' ∈ p.threads.set i call' := List.mem_of_getElem? (getElem?_moved hi)
  refine ⟨fun key hkey => ?_, ?_⟩
  · rcases hmove.new_object hkey with hold | hheld
    · rcases h.objects key hold with
        hinitial | hothers | ⟨row, hrow, hrowKey⟩ | ⟨other, hother, hheld⟩ | hleft
      · exact .inl hinitial
      · exact .inr (.inl hothers)
      · refine .inr (.inr (.inl ⟨row, ?_, hrowKey⟩))
        rcases hmove.ledger_cases with ⟨hreceipts, -⟩ | ⟨_, _, _, _, _, _, -, -, hstores, -⟩
        · exact hreceipts ▸ hrow
        · exact hstores ▸ List.mem_append_left _ hrow
      · obtain ⟨j, hj⟩ := List.mem_iff_getElem?.mp hother
        by_cases hij : i = j
        · subst hij
          obtain rfl := Option.some.inj (hi.symm.trans hj)
          rcases hmove.held_object hvalid hheld hkey with hheld' | hrow | hleaves
          · exact .inr (.inr (.inr (.inl ⟨call', hset, hheld'⟩)))
          · exact .inr (.inr (.inl hrow))
          · exact .inr (.inr (.inr (.inr (List.mem_append_left _ hleaves))))
        · refine .inr (.inr (.inr (.inl ⟨other, List.mem_of_getElem? (i := j) ?_, hheld⟩)))
          rwa [List.getElem?_set_ne hij]
      · exact .inr (.inr (.inr (.inr (List.mem_append_right _ hleft))))
    · exact .inr (.inr (.inr (.inl ⟨call', hset, hheld⟩)))
  · obtain ⟨hcall, -⟩ := hmove.done_cases
    have hfilter := Replay.filter_set call' hi hcall
    have hrows : p.shared.1.stores.receipts.Perm (p.threads.filterMap ReceiptCall.savedRow) := h.rows
    rw [filterMap_savedRow] at hrows ⊢
    refine .trans ?_ (hfilter.filterMap _).symm
    rcases hmove.ledger_cases with ⟨hreceipts, -, -, hentry⟩ | ⟨_, _, _, _, saved, _, -, rfl, hstores, -⟩
    · have hcall' : call'.isResolved = false := by
        rcases call' with ⟨file, userId, phase⟩ | ⟨userId, mimeType, ext, phase⟩
        · cases phase <;> first | rfl | exact absurd hentry (by simp [ReceiptCall.entry])
        · rfl
      rw [hcall', if_neg Bool.false_ne_true, hreceipts]
      exact hrows
    · rw [hstores]
      exact (List.perm_append_singleton saved _).trans (hrows.cons saved)

lemma Accounted.start {call : ReceiptCall} (h : Accounted bucket p)
    (hs : (receiptSystem env s3).starts call) : Accounted bucket ⟨p.shared, p.threads ++ [call]⟩ := by
  refine ⟨fun key hkey => ?_, ?_⟩
  · rcases h.objects key hkey with hinitial | hothers | hrow | ⟨other, hother, hheld⟩ | hleft
    · exact .inl hinitial
    · exact .inr (.inl hothers)
    · exact .inr (.inr (.inl hrow))
    · exact .inr (.inr (.inr (.inl ⟨other, List.mem_append_left _ hother, hheld⟩)))
    · exact .inr (.inr (.inr (.inr hleft)))
  · obtain ⟨-, -, hcall⟩ := ReceiptCall.started hs
    have hrows := h.rows
    rw [filterMap_savedRow] at hrows ⊢
    simpa [List.filter_append, hcall] using hrows

lemma Accounted.put (h : Accounted bucket p) (key : String) (object : S3Object) :
    Accounted bucket ⟨({ p.shared.1 with stores := p.shared.1.stores.put key object },
      { p.shared.2 with others := key :: p.shared.2.others }), p.threads⟩ := by
  refine ⟨fun key' hkey' => ?_, h.rows⟩
  by_cases hsame : key' = key
  · exact .inr (.inl (hsame ▸ List.mem_cons_self))
  · have hold : (p.shared.1.stores.bucket key').isSome := by
      simpa [Stores.put, Function.update_of_ne hsame] using hkey'
    exact (h.objects key' hold).imp_right (.imp_left (List.mem_cons_of_mem _))

lemma accounted_run (hrun : Run (watchedReceipts env s3) ⟨(ReceiptState.initial bucket, ⟨[], []⟩), []⟩ p) :
    Accounted bucket p := by
  have hall : Accounted bucket p ∧ (receiptReplay env s3).outline.Holds p.unwatched := by
    induction hrun with
    | refl =>
      refine ⟨⟨fun key hkey => .inl hkey, .nil⟩, Outline.holds_empty _ fun n hn => ?_⟩
      cases n <;> exact absurd hn (by simp [receiptReplay, Stores.Spent, ReceiptState.initial])
    | @tail p q _ hstep ih =>
      obtain ⟨h, hholds⟩ := ih
      refine ⟨?_, Outline.holds_step _ hholds (step_unwatched hstep)⟩
      cases hstep with
      | @start call hs =>
        exact h.start (show (receiptSystem env s3).starts call from hs)
      | @ambient s' hs =>
        obtain ⟨s', record'⟩ := s'
        obtain ⟨-, key', object, hput, rfl⟩ := hs
        obtain rfl := hput
        exact h.put key' object
      | @move i call call' s' hi hp hmove =>
        obtain ⟨s', record'⟩ := s'
        obtain ⟨hmove, hrecord⟩ := hmove
        obtain rfl : record' = { p.shared.2 with
          left := call.leaves s'.stores call' ++ p.shared.2.left } := hrecord
        exact h.move (show (receiptReplay env s3).outline.asserts _ call from hholds.asserts hi).1.1 hi hmove
  exact hall.1

/-- In every state that a watched run reaches, each object and each row is accounted for. If the
bucket was empty, nobody else has put anything, no scan has left its image behind and all calls
have ended, then the objects are the images of the receipts and nothing else. -/
theorem bucket_accounted
    (hrun : Run (watchedReceipts env s3) ⟨(ReceiptState.initial bucket, ⟨[], []⟩), []⟩ p) :
    Accounted bucket p ∧ ((∀ key, bucket key = none) → p.shared.2 = ⟨[], []⟩ →
      (∀ call ∈ p.threads, call.Ended) →
      ∀ key, (p.shared.1.stores.bucket key).isSome ↔
        ∃ row ∈ p.shared.1.stores.receipts, row.s3Key = key) := by
  have haccounted := accounted_run hrun
  refine ⟨haccounted, fun hempty hrecord hended key => ⟨fun hkey => ?_, ?_⟩⟩
  · rcases haccounted.objects key hkey with hinitial | hothers | hrow | ⟨call, hcall, hheld⟩ | hleft
    · exact absurd hinitial (by simp [hempty])
    · exact absurd hothers (by simp [hrecord])
    · exact hrow
    · exact absurd hheld.1 (by simp [(hended call hcall).key_eq_none])
    · exact absurd hleft (by simp [hrecord])
  · rintro ⟨row, hrow, rfl⟩
    have hinitial : (ReceiptState.initial bucket).stores.ImagesSound (ReceiptState.initial bucket).uuids :=
      ⟨by simp [ReceiptState.initial], by simp [ReceiptState.initial], .nil⟩
    have hholds := (imageOutline env s3).holds_run ((imageOutline env s3).holds_empty hinitial)
      (run_unwatched hrun)
    exact hholds.inv.stored row hrow

end Runs

/-- One scan has been saved and another has cleaned up: the one object is the image of the one row. -/
theorem bucket_accounted_saved : ∃ p saved,
    Run (watchedReceipts Sample.receiptEnv Sample.s3) ⟨(Sample.noImages, ⟨[], []⟩), []⟩ p ∧
    p.threads = Sample.cleaned saved ∧ p.shared.1.stores.receipts = [saved] ∧
    Accounted (fun _ => none) p ∧ ∀ key, (p.shared.1.stores.bucket key).isSome ↔
      ∃ row ∈ p.shared.1.stores.receipts, row.s3Key = key := by
  obtain ⟨saved, row, s, -, -, hreceipts, -, -, hrun⟩ := Sample.cleaning_watched Sample.s3
  have hcleaned := hrun.trans (Sample.cleaned_watched Sample.s3 s saved ⟨[], []⟩)
  have hended : ∀ call ∈ Sample.cleaned saved, call.Ended := by
    simp [Sample.cleaned, ReceiptCall.Ended]
  obtain ⟨haccounted, himages⟩ := bucket_accounted hcleaned
  exact ⟨_, saved, hcleaned, rfl, hreceipts, haccounted, himages (fun _ => rfl) rfl hended⟩

/-! ### Calls end -/

/-- How many steps a call can still take. -/
def ReceiptCall.weight : ReceiptCall → ℕ
  | .scan _ _ .started => 7
  | .scan _ _ (.putting _ _) => 6
  | .scan _ _ (.uploaded _) => 5
  | .scan _ _ (.ocrReplied _ _) => 4
  | .scan _ _ (.validated _ _) => 3
  | .scan _ _ (.inserted _ _ _) => 2
  | .scan _ _ (.linesInserted _ _ _ _) => 1
  | .scan _ _ (.cleaning _ _) => 1
  | .presign _ _ _ .started => 2
  | .presign _ _ _ (.signing _) => 1
  | _ => 0

lemma Uuid.exists_fresh (uuids : List Uuid) : ∃ id, id ∉ uuids := by
  have hwellFormed : ∀ n : ℕ, ∀ c ∈ List.replicate n '0', c ∈ "0123456789abcdef-".toList := by
    intro n c hc
    rw [List.eq_of_mem_replicate hc]
    exact List.mem_cons_self
  have : Infinite Uuid := by
    refine Infinite.of_injective (fun n : ℕ => (⟨List.replicate n '0', hwellFormed n⟩ : Uuid)) ?_
    intro m n h
    simpa using congrArg (fun id : Uuid => id.text.length) h
  obtain ⟨id, hid⟩ := Infinite.exists_notMem_finset uuids.toFinset
  exact ⟨id, fun hmem => hid (List.mem_toFinset.mpr hmem)⟩

section Ends

variable {env : ReceiptEnv} {s3 : S3Env} {s s' : ReceiptState} {c c' : ReceiptCall}

lemma ReceiptMove.weight (h : ReceiptMove env s3 s c s' c') : c'.weight < c.weight := by
  cases h with
  | @transactionFails file userId phase hphase e =>
    cases phase <;> first | exact hphase.elim | exact Nat.succ_pos _
  | _ => simp [ReceiptCall.weight]

/-- Wherever a call is, it can go on. -/
lemma exists_move (env : ReceiptEnv) (s3 : S3Env) (s : ReceiptState) (hended : ¬c.Ended) :
    ∃ s' c', ReceiptMove env s3 s c s' c' := by
  obtain ⟨id, hfresh⟩ := Uuid.exists_fresh s.uuids
  rcases c with ⟨file, userId, phase⟩ | ⟨userId, mimeType, ext, phase⟩
  · cases phase with
    | started =>
      cases hcommand : AwsS3Service.upload.command 0 id userId file with
      | ok command => exact ⟨_, _, .upload 0 hfresh hcommand⟩
      | error e => exact ⟨_, _, .refuse 0 id hcommand⟩
    | putting key object => exact ⟨_, _, .put⟩
    | uploaded key => exact ⟨_, _, .ocrFails⟩
    | ocrReplied key raw =>
      cases hscan : ReceiptService.scanned env raw with
      | ok scanData => exact ⟨_, _, .validate hscan⟩
      | error e => exact ⟨_, _, .invalid hscan⟩
    | validated key scanData =>
      exact ⟨_, _, .transactionFails (by trivial) (QueryFailedError "deadlock detected")⟩
    | inserted key scanData saved =>
      exact ⟨_, _, .transactionFails (by trivial) (QueryFailedError "deadlock detected")⟩
    | linesInserted key scanData saved rows => exact ⟨_, _, .commit⟩
    | cleaning key e => exact ⟨_, _, .cleanup⟩
    | resolved scanData saved => exact absurd trivial hended
    | rejected e => exact absurd trivial hended
  · cases phase with
    | started =>
      cases hkey : AwsS3Service.presignUpload.key 0 id userId mimeType ext with
      | ok key => exact ⟨_, _, .presign 0 hfresh hkey⟩
      | error e => exact ⟨_, _, .presignRefused 0 id hkey⟩
    | signing key => exact ⟨_, _, .signFails (.error "Error" "Resolved credential object is not valid")⟩
    | answered upload => exact absurd trivial hended
    | rejected e => exact absurd trivial hended

def receiptEffort (env : ReceiptEnv) (s3 : S3Env) : Effort (receiptSystem env s3) fun _ _ => False where
  left _ := 0
  weight := ReceiptCall.weight
  move h := Nat.add_lt_add_left h.weight 0
  ambient _ h := h.elim
  idle _ _ := Nat.le_refl 0

/-- From any reachable state on the calls take at most seven steps each, whatever others put into
the bucket meanwhile, and when no call can take a step all have ended. -/
theorem receiptCalls_end {bucket : Bucket} {p : Pool ReceiptState ReceiptCall}
    (hrun : Run (receiptSystem env s3) ⟨ReceiptState.initial bucket, []⟩ p) :
    EndsWithin (receiptSystem env s3) (fun _ _ => False) ReceiptCall.Ended (p.threads.length * 7) p := by
  have hstart : ∀ call, (receiptSystem env s3).starts call → call.weight ≤ 7 := by
    rintro call (⟨file, userId, rfl⟩ | ⟨userId, mimeType, ext, rfl⟩) <;> simp [ReceiptCall.weight]
  have htotal := (receiptEffort env s3).total_le_of_run hstart hrun
  refine (receiptEffort env s3).endsWithin (htotal.trans_eq (Nat.zero_add _)) ?_
  intro n q hclosed call hcall hended
  obtain ⟨i, hi⟩ := List.mem_iff_getElem?.mp hcall
  obtain ⟨s', call', hmove⟩ := exists_move env s3 q.shared hended
  exact ⟨_, .move hi (fun _ _ _ _ => trivial) hmove⟩

end Ends

/-- One call has resolved, one is about to clean up and one has just started. -/
theorem receiptCalls_end_saved : ∃ p saved,
    Run (receiptSystem Sample.receiptEnv Sample.s3) ⟨Sample.noImages, []⟩ p ∧
    p.threads = Sample.cleaning saved ++ [.scan none 3 .started] ∧
    EndsWithin (receiptSystem Sample.receiptEnv Sample.s3) (fun _ _ => False) ReceiptCall.Ended 21 p := by
  obtain ⟨saved, row, s, -, -, -, -, -, hrun⟩ := Sample.cleaning_run Sample.s3
  have hstarted := hrun.tail (.start (t := .scan none 3 .started) (.inl ⟨_, _, rfl⟩))
  exact ⟨_, saved, hstarted, rfl, receiptCalls_end hstarted⟩

end NextLevelApi
