import AudioReachPal.ContextManager.Requests

/-!
# Refused register requests

A refused request should leave the running usecases and their configurations as they were. It does
so where it is refused early enough: before the class has dropped the old configuration, or with a
configuration that is the one stored; and before the usecase is stored, where it is new.
-/

namespace AudioReachPal.Context

open AudioReachPal.Lib

/-! ### What a request must pass -/

section Checks

variable (hdr : Headers) (p : Payload) (r : Calls)

/-- The checks and allocations of the class's `setUseCaseData` pass. -/
def Accepts : UsecaseClass → Prop
  | .UsecaseACD =>
    p.size ≠ 0 ∧ p.data = true ∧ UsecaseConfig.contextsSize p.contexts.num_contexts ≤ p.size ∧
      r.calloc_data = true
  | .UsecasePCMData =>
    p.size ≠ 0 ∧ p.data = true ∧
      (p.pcm.stream_type = PCM_DATA_EFFECT_RAW ∨ p.pcm.stream_type = PCM_DATA_EFFECT_NS)
  | .UsecasePCMRenderer =>
    hdr.sizeof_asps_ultrasound_rendering_usecase_register_payload_t ≤ p.size ∧ p.data = true ∧
      p.renderer.num_channels ≤ 2 ∧ p.renderer.num_channels ≤
        p.size - hdr.sizeof_asps_ultrasound_rendering_usecase_register_payload_t
  | .UsecaseASR =>
    p.data = true ∧ p.size = hdr.sizeof_asps_asr_usecase_register_payload_t ∧ r.calloc_data = true
  | .UsecaseUPD | .UsecaseSDZ => True

/-- The calls of the class's `configure` succeed. -/
def Configures : UsecaseClass → Prop
  | .UsecaseACD => p.contexts.num_contexts ≠ 0 ∧ r.calloc_param = true ∧ r.set_param = 0
  | .UsecasePCMData => r.calloc_param = true ∧ r.set_param = 0 ∧ r.add_remove_effect = 0
  | .UsecaseSDZ => r.calloc_list = true ∧ r.calloc_param = true ∧ r.set_param = 0
  | .UsecaseASR =>
    r.asr_platform = true ∧ r.calloc_param = true ∧ r.getDefaultASRConfig = 0 ∧ r.set_param = 0 ∧
      r.calloc_frame = true ∧ r.set_frame = 0
  | .UsecaseUPD | .UsecasePCMRenderer => True

/-- The ack of an ACD usecase has room for the context ids. -/
def AckFits (c : UsecaseClass) : Prop :=
  c = .UsecaseACD → size64 (hdr.sizeof_asps_acd_usecase_register_ack_payload_t +
    4 * p.contexts.num_contexts) ≤ ACKDATA_DEFAULT_SIZE

/-- The register ack is built, from the first or the second answer for the module ids, and sent. -/
def Acknowledges (c : UsecaseClass) : Prop :=
  r.calloc_ack = true ∧ AckFits hdr p c ∧
    (r.getModuleIIDs.1 = 0 ∨
      (r.getModuleIIDs.1 = ENODATA ∧ r.calloc_ack_again = true ∧ r.getModuleIIDs_again.1 = 0)) ∧
    r.calloc_response = true ∧ r.send_response = 0

/-- The class stores nothing of the payload that is not stored already. -/
def Repeats (cfg : UsecaseConfig) : UsecaseClass → Prop
  | .UsecaseACD => cfg.requested_context_list = some p.contexts
  | .UsecasePCMData => cfg.pcm_data_type = p.pcm.stream_type
  | .UsecaseASR => cfg.asr_reg_config = some p.asr
  | .UsecaseUPD | .UsecasePCMRenderer | .UsecaseSDZ => True

/-- A `setUseCaseData` that fails drops nothing: it fails before it gets that far, or nothing is
stored. -/
def Spares (cfg : UsecaseConfig) : UsecaseClass → Prop
  | .UsecaseACD => p.size = 0 ∨ p.data = false ∨ cfg.requested_context_list = none
  | .UsecaseASR =>
    p.data = false ∨ p.size ≠ hdr.sizeof_asps_asr_usecase_register_payload_t ∨
      cfg.asr_reg_config = none
  | .UsecasePCMData | .UsecaseUPD | .UsecasePCMRenderer | .UsecaseSDZ => True

instance (c : UsecaseClass) : Decidable (Accepts hdr p r c) := by
  cases c <;> unfold Accepts <;> infer_instance

instance (c : UsecaseClass) : Decidable (Configures p r c) := by
  cases c <;> unfold Configures <;> infer_instance

instance (c : UsecaseClass) : Decidable (Acknowledges hdr p r c) := by
  unfold Acknowledges AckFits; infer_instance

end Checks

/-! ### The configuration that counts -/

/-- The configuration of a usecase as far as a later request depends on it. -/
structure StoredConfig where
  requested_context_list : Option pal_param_context_list
  pcm_data_type : ℕ
  asr_reg_config : Option asps_asr_usecase_register_payload_t
  deriving DecidableEq, Repr

namespace UsecaseConfig

def stored (cfg : UsecaseConfig) : StoredConfig :=
  ⟨cfg.requested_context_list, cfg.pcm_data_type, cfg.asr_reg_config⟩

variable {hdr : Headers} {cfg : UsecaseConfig} {p : Payload} {r : Calls} {c : UsecaseClass}
  {usecase_id : ℕ}

variable (hdr cfg p r c usecase_id) in
/-- `setUseCaseData` succeeds exactly when the checks pass. -/
theorem setUseCaseData_fst : (cfg.setUseCaseData hdr p r c usecase_id).1 = 0 ↔ Accepts hdr p r c := by
  cases c with
  | UsecaseACD =>
    unfold setUseCaseData setContexts Accepts
    dsimp only
    by_cases h : p.size = 0 ∨ p.data = false
    · rw [if_pos h]
      rcases h with h | h <;> simp [h, EINVAL]
    · rw [if_neg h]
      obtain ⟨hsize, hdata⟩ := not_or.mp h
      by_cases hlt : p.size < contextsSize p.contexts.num_contexts
      · simp [hlt, EINVAL]
      · rw [if_neg hlt]
        have hfit := not_lt.mp hlt
        cases hc : r.calloc_data <;> simp [hsize, hdata, hfit, ENOMEM]
  | UsecasePCMData =>
    unfold setUseCaseData setPcm Accepts
    dsimp only
    by_cases h : p.size = 0 ∨ p.data = false
    · rw [if_pos h]
      rcases h with h | h <;> simp [h, EINVAL]
    · rw [if_neg h]
      obtain ⟨hsize, hdata⟩ := not_or.mp h
      by_cases ht : p.pcm.stream_type ≠ PCM_DATA_EFFECT_RAW ∧ p.pcm.stream_type ≠ PCM_DATA_EFFECT_NS
      · rw [if_pos ht]
        simp [ht, EINVAL]
      · rw [if_neg ht]
        have : p.pcm.stream_type = PCM_DATA_EFFECT_RAW ∨ p.pcm.stream_type = PCM_DATA_EFFECT_NS := by
          by_contra hne
          exact ht (not_or.mp hne)
        simp [hsize, hdata, this]
  | UsecasePCMRenderer =>
    unfold setUseCaseData setRenderer Accepts
    dsimp only
    by_cases h : p.size < hdr.sizeof_asps_ultrasound_rendering_usecase_register_payload_t ∨
        p.data = false
    · rw [if_pos h]
      rcases h with h | h
      · have : ¬hdr.sizeof_asps_ultrasound_rendering_usecase_register_payload_t ≤ p.size := by omega
        simp [this, EINVAL]
      · simp [h, EINVAL]
    · rw [if_neg h]
      obtain ⟨hsize, hdata⟩ := not_or.mp h
      have hle : hdr.sizeof_asps_ultrasound_rendering_usecase_register_payload_t ≤ p.size := by omega
      by_cases h2 : 2 < p.renderer.num_channels
      · have : ¬p.renderer.num_channels ≤ 2 := by omega
        rw [if_pos h2]
        simp [this, EINVAL]
      · rw [if_neg h2]
        have h2 : p.renderer.num_channels ≤ 2 := by omega
        by_cases h3 : p.size - hdr.sizeof_asps_ultrasound_rendering_usecase_register_payload_t <
            p.renderer.num_channels
        · rw [if_pos h3]
          have := not_le.mpr h3
          simp [this, EINVAL]
        · rw [if_neg h3]
          simp [hle, hdata, h2, not_lt.mp h3]
  | UsecaseASR =>
    unfold setUseCaseData setAsr Accepts
    dsimp only
    by_cases h : p.data = false ∨ p.size ≠ hdr.sizeof_asps_asr_usecase_register_payload_t
    · rw [if_pos h]
      rcases h with h | h <;> simp [h, EINVAL]
    · rw [if_neg h]
      obtain ⟨hdata, hsize⟩ := not_or.mp h
      cases hc : r.calloc_data <;> simp [hdata, not_not.mp hsize, ENOMEM]
  | UsecaseUPD => simp [setUseCaseData, Accepts]
  | UsecaseSDZ => simp [setUseCaseData, Accepts]

variable (usecase_id) in
/-- What an accepted payload leaves is what was stored exactly when it repeats it. -/
theorem stored_of_accepts (h : Accepts hdr p r c) :
    (cfg.setUseCaseData hdr p r c usecase_id).2.stored = cfg.stored ↔ Repeats p cfg c := by
  cases c with
  | UsecaseACD =>
    obtain ⟨hsize, hdata, hfit, hcalloc⟩ := h
    have h1 : ¬(p.size = 0 ∨ p.data = false) := by simp [hsize, hdata]
    unfold setUseCaseData setContexts Repeats
    dsimp only
    rw [if_neg h1, if_neg (not_lt.mpr hfit), if_neg (by simp [hcalloc])]
    simp [stored, eq_comm]
  | UsecasePCMData =>
    obtain ⟨hsize, hdata, htype⟩ := h
    have h1 : ¬(p.size = 0 ∨ p.data = false) := by simp [hsize, hdata]
    have h2 : ¬(p.pcm.stream_type ≠ PCM_DATA_EFFECT_RAW ∧
        p.pcm.stream_type ≠ PCM_DATA_EFFECT_NS) := by
      rintro ⟨hr, hn⟩
      exact htype.elim hr hn
    unfold setUseCaseData setPcm Repeats
    dsimp only
    rw [if_neg h1, if_neg h2]
    by_cases hv : usecase_id = hdr.ASPS_USECASE_ID_PCM_DATA_V2 <;>
      simp [hv, stored, setPcmV2, eq_comm]
  | UsecasePCMRenderer =>
    unfold setUseCaseData setRenderer Repeats
    dsimp only
    split_ifs <;> simp [stored]
  | UsecaseASR =>
    obtain ⟨hdata, hsize, hcalloc⟩ := h
    have h1 : ¬(p.data = false ∨ p.size ≠ hdr.sizeof_asps_asr_usecase_register_payload_t) := by
      simp [hsize, hdata]
    unfold setUseCaseData setAsr Repeats
    dsimp only
    rw [if_neg h1, if_neg (by simp [hcalloc])]
    simp [stored, eq_comm]
  | UsecaseUPD => simp [setUseCaseData, Repeats]
  | UsecaseSDZ => simp [setUseCaseData, Repeats]

variable (usecase_id) in
/-- What a payload that is not accepted leaves is what was stored exactly when that is spared. -/
theorem stored_of_not_accepts (h : ¬Accepts hdr p r c) :
    (cfg.setUseCaseData hdr p r c usecase_id).2.stored = cfg.stored ↔ Spares hdr p cfg c := by
  cases c with
  | UsecaseACD =>
    unfold setUseCaseData setContexts Spares
    dsimp only
    by_cases h1 : p.size = 0 ∨ p.data = false
    · rw [if_pos h1]
      exact iff_of_true rfl (by tauto)
    · rw [if_neg h1]
      obtain ⟨hsize, hdata⟩ := not_or.mp h1
      by_cases hlt : p.size < contextsSize p.contexts.num_contexts
      · rw [if_pos hlt]
        simp [stored, hsize, hdata, eq_comm]
      · have hcalloc : r.calloc_data = false := by
          by_contra hc
          exact h ⟨hsize, by simpa using hdata, not_lt.mp hlt, by simpa using hc⟩
        rw [if_neg hlt, if_pos hcalloc]
        simp [stored, hsize, hdata, eq_comm]
  | UsecasePCMData =>
    unfold setUseCaseData setPcm Spares
    dsimp only
    by_cases h1 : p.size = 0 ∨ p.data = false
    · rw [if_pos h1]
      simp
    · obtain ⟨hsize, hdata⟩ := not_or.mp h1
      have h2 : p.pcm.stream_type ≠ PCM_DATA_EFFECT_RAW ∧ p.pcm.stream_type ≠ PCM_DATA_EFFECT_NS :=
        not_or.mp fun htype => h ⟨hsize, by simpa using hdata, htype⟩
      rw [if_neg h1, if_pos h2]
      by_cases hv : usecase_id = hdr.ASPS_USECASE_ID_PCM_DATA_V2 <;> simp [hv, stored, setPcmV2]
  | UsecasePCMRenderer =>
    unfold setUseCaseData setRenderer Spares
    dsimp only
    split_ifs <;> simp [stored]
  | UsecaseASR =>
    unfold setUseCaseData setAsr Spares
    dsimp only
    by_cases h1 : p.data = false ∨ p.size ≠ hdr.sizeof_asps_asr_usecase_register_payload_t
    · rw [if_pos h1]
      exact iff_of_true rfl (by tauto)
    · obtain ⟨hdata, hsize⟩ := not_or.mp h1
      have hcalloc : r.calloc_data = false := by
        by_contra hc
        exact h ⟨by simpa using hdata, not_not.mp hsize, by simpa using hc⟩
      rw [if_neg h1, if_pos hcalloc]
      simp [stored, hdata, not_not.mp hsize, eq_comm]
  | UsecaseUPD => exact absurd trivial h
  | UsecaseSDZ => exact absurd trivial h

variable (cfg usecase_id) in
/-- What `configure` and the ack read of an accepted payload. -/
theorem setUseCaseData_reads (h : Accepts hdr p r c) :
    (c = .UsecaseACD →
        (cfg.setUseCaseData hdr p r c usecase_id).2.requested_context_list = some p.contexts) ∧
      (c = .UsecaseASR →
        (cfg.setUseCaseData hdr p r c usecase_id).2.asr_reg_config = some p.asr) := by
  constructor
  · rintro rfl
    obtain ⟨hsize, hdata, hfit, hcalloc⟩ := h
    have h1 : ¬(p.size = 0 ∨ p.data = false) := by simp [hsize, hdata]
    unfold setUseCaseData setContexts
    dsimp only
    rw [if_neg h1, if_neg (not_lt.mpr hfit), if_neg (by simp [hcalloc])]
  · rintro rfl
    obtain ⟨hdata, hsize, hcalloc⟩ := h
    have h1 : ¬(p.data = false ∨ p.size ≠ hdr.sizeof_asps_asr_usecase_register_payload_t) := by
      simp [hsize, hdata]
    unfold setUseCaseData setAsr
    dsimp only
    rw [if_neg h1, if_neg (by simp [hcalloc])]

/-- `configure` reads no `NULL` after an accepted payload, and drops nothing that the usecase
stores. -/
theorem configure_spec (hacd : c = .UsecaseACD → cfg.requested_context_list = some p.contexts)
    (hasr : c = .UsecaseASR → cfg.asr_reg_config = some p.asr) :
    ∃ rc cfg', cfg.configure r c = some (rc, cfg') ∧ (rc = 0 ↔ Configures p r c) ∧
      (c = .UsecaseSDZ → cfg'.requested_context_list = none) ∧
      ((c = .UsecaseSDZ → cfg.requested_context_list = none) → cfg'.stored = cfg.stored) := by
  cases c with
  | UsecaseACD =>
    unfold configure configureContexts Configures
    rw [hacd rfl]
    dsimp only
    by_cases hn : p.contexts.num_contexts = 0
    · rw [if_pos hn]
      exact ⟨_, cfg, rfl, by simp [hn, EINVAL], by simp, fun _ => rfl⟩
    · rw [if_neg hn]
      cases hc : r.calloc_param with
      | false => exact ⟨_, cfg, rfl, by simp [ENOMEM], by simp, fun _ => rfl⟩
      | true => exact ⟨_, cfg, rfl, by simp [hn], by simp, fun _ => rfl⟩
  | UsecasePCMData =>
    refine ⟨_, cfg, rfl, ?_, by simp, fun _ => rfl⟩
    unfold configurePcm Configures
    cases hc : r.calloc_param
    · simp [ENOMEM]
    · by_cases hs : r.set_param = 0 <;> simp [hs]
  | UsecaseSDZ =>
    refine ⟨_, _, rfl, ?_, fun _ => rfl, ?_⟩
    · unfold Configures
      cases hl : r.calloc_list <;> cases hc : r.calloc_param <;> simp [ENOMEM]
    · intro h
      simp [stored, h rfl]
  | UsecaseASR =>
    refine ⟨_, cfg, rfl, ?_, by simp, fun _ => rfl⟩
    unfold configureAsr Configures
    rw [hasr rfl, if_neg (by simp)]
    cases ha : r.asr_platform
    · simp [EINVAL]
    · cases hc : r.calloc_param
      · simp [ENOMEM]
      · by_cases hd : r.getDefaultASRConfig = 0
        · by_cases hs : r.set_param = 0
          · cases hf : r.calloc_frame <;> simp [hd, hs, ENOMEM]
          · simp [hd, hs]
        · simp [hd]
  | UsecaseUPD => exact ⟨0, cfg, rfl, by simp [Configures], by simp, fun _ => rfl⟩
  | UsecasePCMRenderer => exact ⟨0, cfg, rfl, by simp [Configures], by simp, fun _ => rfl⟩

end UsecaseConfig

/-! ### The ack -/

/-- A register ack is sent exactly where the status is 0, and nothing else is. -/
inductive Answered (ok : Prop) : ℤ → List Ack → Prop where
  | ack (h : ok) (see_id usecase_id : ℕ) (payload : List ℕ) :
    Answered ok 0 [.register_ack see_id usecase_id payload]
  | failed (h : ¬ok) {rc : ℤ} (hrc : rc ≠ 0) : Answered ok rc []

section Ack

variable {hdr : Headers} {cfg : UsecaseConfig} {p : Payload} {r : Calls} {c : UsecaseClass}
  {see_id usecase_id : ℕ}

variable (hdr) in
/-- The data of the ack is complete exactly where the module ids are there and it fits. -/
theorem GetAckData_spec (hacd : c = .UsecaseACD → cfg.requested_context_list = some p.contexts)
    (iids : ℤ × List ℕ) :
    ∃ got, cfg.getAckDataOnSuccessfullStart hdr c ACKDATA_DEFAULT_SIZE iids = some got ∧
      (got.1 = 0 ↔ iids.1 = 0 ∧ AckFits hdr p c) ∧
      (got.1 = ENODATA ↔ iids.1 = ENODATA) ∧
      (got.1 = ENODATA → got.2.1 = ACKDATA_DEFAULT_SIZE) := by
  unfold UsecaseConfig.getAckDataOnSuccessfullStart
  by_cases h0 : iids.1 = 0
  · rw [if_neg (not_not.mpr h0)]
    by_cases hc : c = .UsecaseACD
    · subst hc
      rw [hacd rfl]
      dsimp only
      unfold AckFits
      by_cases hfit : size64 (hdr.sizeof_asps_acd_usecase_register_ack_payload_t +
          4 * p.contexts.num_contexts) ≤ ACKDATA_DEFAULT_SIZE
      · rw [if_pos hfit]
        exact ⟨_, rfl, by simp [h0, hfit], by simp [h0, ENODATA], by simp [ENODATA]⟩
      · rw [if_neg hfit]
        exact ⟨_, rfl, by simp [hfit, ENODATA], by simp [h0, ENODATA], by simp [ENODATA]⟩
    · have hfits : AckFits hdr p c := fun h => absurd h hc
      cases c with
      | UsecaseACD => exact absurd rfl hc
      | UsecasePCMData | UsecaseUPD | UsecasePCMRenderer | UsecaseSDZ | UsecaseASR =>
        exact ⟨_, rfl, by simp [h0, hfits], by simp [h0, ENODATA], by simp [ENODATA]⟩
  · rw [if_pos h0]
    exact ⟨_, rfl, by simp [h0], Iff.rfl, fun _ => rfl⟩

theorem sendRegisterAck_spec (got : ℤ × ℕ × List ℕ) :
    Answered (got.1 = 0 ∧ r.calloc_response = true ∧ r.send_response = 0)
      (sendRegisterAck r see_id usecase_id got).1 (sendRegisterAck r see_id usecase_id got).2 := by
  unfold sendRegisterAck
  by_cases h : got.1 = 0
  · rw [if_neg (not_not.mpr h)]
    cases hc : r.calloc_response with
    | false => exact .failed (by simp) (by simp [ENOMEM])
    | true =>
      by_cases hs : r.send_response = 0
      · rw [if_neg (by simp), if_neg (not_not.mpr hs)]
        exact .ack ⟨h, rfl, hs⟩ _ _ _
      · rw [if_neg (by simp), if_pos hs]
        exact .failed (by simp [hs]) hs
  · rw [if_pos h]
    exact .failed (by simp [h]) h

theorem Answered.congr {ok ok' : Prop} {rc : ℤ} {acks : List Ack} (h : ok ↔ ok')
    (ha : Answered ok rc acks) : Answered ok' rc acks := by
  cases ha with
  | ack hok _ _ _ => exact .ack (h.mp hok) _ _ _
  | failed hok hrc => exact .failed (mt h.mpr hok) hrc

variable (hdr r see_id usecase_id) in
/-- The register ack goes out exactly where everything it needs is there. -/
theorem buildAndSendRegisterAck_spec
    (hacd : c = .UsecaseACD → cfg.requested_context_list = some p.contexts) :
    ∃ rc acks, buildAndSendRegisterAck hdr c cfg r see_id usecase_id = some (rc, acks) ∧
      Answered (Acknowledges hdr p r c) rc acks := by
  unfold buildAndSendRegisterAck
  cases hcalloc : r.calloc_ack with
  | false => exact ⟨_, _, rfl, .failed (by simp [Acknowledges, hcalloc]) (by simp [ENOMEM])⟩
  | true =>
    obtain ⟨got, hgot, h0, hd, hsize⟩ := GetAckData_spec hdr hacd r.getModuleIIDs
    rw [if_neg (by simp), hgot]
    dsimp only
    by_cases hno : got.1 = ENODATA
    · rw [if_pos hno]
      have h1 := hd.mp hno
      have hne : r.getModuleIIDs.1 ≠ 0 := by simp [h1, ENODATA]
      cases hagain : r.calloc_ack_again with
      | false =>
        refine ⟨_, _, rfl, .failed ?_ (by simp [ENOMEM])⟩
        simp [Acknowledges, hne, hagain]
      | true =>
        obtain ⟨got', hgot', h0', -⟩ := GetAckData_spec hdr hacd r.getModuleIIDs_again
        rw [if_neg (by simp), hsize hno, hgot']
        refine ⟨_, _, rfl, (sendRegisterAck_spec got').congr ?_⟩
        simp only [Acknowledges, h0', hcalloc, hagain, h1, ENODATA]
        tauto
    · rw [if_neg hno]
      have h1 : r.getModuleIIDs.1 ≠ ENODATA := mt hd.mpr hno
      refine ⟨_, _, rfl, (sendRegisterAck_spec got).congr ?_⟩
      simp only [Acknowledges, h0, hcalloc, h1]
      tauto

end Ack

/-! ### The two branches of a register request -/

/-- All that a new usecase must pass before it is stored. -/
def Starts (hdr : Headers) (p : Payload) (r : Calls) (c : UsecaseClass) : Prop :=
  Accepts hdr p r c ∧ r.palStreamOpen = 0 ∧ Configures p r c ∧ r.palStreamStart = 0

namespace Manager

variable {hdr : Headers} {σ τ : Manager} {p : Payload} {r : Calls} {c : UsecaseClass}
  {see_id usecase_id : ℕ}

/-- A new usecase that does not come to be stored: it is never created, or it is left behind with
its stream, if it has one, closed. -/
inductive Sidelined (σ τ : Manager) : Prop where
  | unchanged (h : τ = σ)
  | left (uc : Usecase)
      (ledger : τ.usecases.ledger = σ.usecases.ledger.leak uc ∨
        τ.usecases.ledger = σ.usecases.ledger.leakClosed uc)
      (configs : ∀ q, q ≠ σ.usecases.allocated → τ.configs q = σ.configs q)
      (sdz : uc.type = .UsecaseSDZ →
        (τ.configs σ.usecases.allocated).requested_context_list = none)
      (sent : τ.sent = σ.sent)

variable (hdr p r c usecase_id) in
theorem sdz_setUseCaseData {cfg : UsecaseConfig}
    (h : c = .UsecaseSDZ → cfg.requested_context_list = none) : c = .UsecaseSDZ →
      (cfg.setUseCaseData hdr p r c usecase_id).2.requested_context_list = none := by
  rintro rfl
  exact h rfl

theorem config_requested_context_list : c.config.requested_context_list = none := by
  cases c <;> rfl

/-- What `configure` leaves is what an accepted ACD payload brought. -/
theorem contexts_of_stored {cfg cfg' : UsecaseConfig}
    (hacd : c = .UsecaseACD → cfg.requested_context_list = some p.contexts)
    (hkeep : (c = .UsecaseSDZ → cfg.requested_context_list = none) → cfg'.stored = cfg.stored) :
    c = .UsecaseACD → cfg'.requested_context_list = some p.contexts := by
  rintro rfl
  have h := congrArg StoredConfig.requested_context_list (hkeep (by simp))
  exact h.trans (hacd rfl)

variable (hdr σ r see_id usecase_id) in
theorem acknowledge_spec {uc : ℕ}
    (hacd : c = .UsecaseACD → (σ.configs uc).requested_context_list = some p.contexts) :
    ∃ rc acks, σ.acknowledge hdr see_id usecase_id uc c r =
        some (rc, { σ with sent := σ.sent ++ acks }) ∧
      Answered (Acknowledges hdr p r c) rc acks := by
  obtain ⟨rc, acks, hack, hans⟩ := buildAndSendRegisterAck_spec hdr r see_id usecase_id hacd
  refine ⟨rc, acks, ?_, hans⟩
  unfold acknowledge
  rw [hack]
  rfl

variable (hdr p r) in
/-- A new usecase is stored exactly where it passes everything before the ack; a registration that
fails before that leaves the usecases that are stored alone. -/
theorem registerNew_cases (hsee : see_id ∈ σ.usecases.see_clients)
    (hnew : σ.usecases.stored (see_id, usecase_id) = none) :
    (∃ c rc acks τ,
        UsecaseFactory.usecaseCreate hdr.classes usecase_id { constructed := r.constructed } =
          some c ∧ Starts hdr p r c ∧
        σ.registerNew hdr see_id usecase_id p r = some (rc, τ) ∧
        τ.usecases.ledger = σ.usecases.ledger.add (see_id, usecase_id) { usecase_id, type := c } ∧
        (∀ q, q ≠ σ.usecases.allocated → τ.configs q = σ.configs q) ∧
        (c = .UsecaseSDZ → (τ.configs σ.usecases.allocated).requested_context_list = none) ∧
        τ.sent = σ.sent ++ acks ∧ Answered (Acknowledges hdr p r c) rc acks) ∨
      (∃ rc τ,
        (∀ c, UsecaseFactory.usecaseCreate hdr.classes usecase_id
          { constructed := r.constructed } = some c → ¬Starts hdr p r c) ∧
        σ.registerNew hdr see_id usecase_id p r = some (rc, τ) ∧ rc ≠ 0 ∧ Sidelined σ τ) := by
  unfold registerNew
  cases hc : UsecaseFactory.usecaseCreate hdr.classes usecase_id { constructed := r.constructed } with
  | none => exact Or.inr ⟨_, _, by simp, rfl, by simp [EINVAL], .unchanged rfl⟩
  | some c =>
    dsimp only
    have hset := UsecaseConfig.setUseCaseData_fst hdr c.config p r c usecase_id
    have hsdz := sdz_setUseCaseData hdr p r c usecase_id
      fun _ => config_requested_context_list (c := c)
    by_cases ha : Accepts hdr p r c
    · rw [if_neg (not_not.mpr (hset.mpr ha))]
      by_cases hopen : r.palStreamOpen = 0
      · rw [if_neg (not_not.mpr hopen)]
        obtain ⟨hacd, hasr⟩ := UsecaseConfig.setUseCaseData_reads c.config usecase_id ha
        obtain ⟨rc, cfg, hconf, hrc, hfree, hkeep⟩ := UsecaseConfig.configure_spec (r := r) hacd hasr
        rw [hconf]
        dsimp only
        by_cases hcf : Configures p r c
        · rw [if_neg (not_not.mpr (hrc.mpr hcf))]
          by_cases hstart : r.palStreamStart = 0
          · rw [if_neg (not_not.mpr hstart)]
            have hstored := contexts_of_stored (c := c) (p := p) hacd hkeep
            obtain ⟨μ, hμ⟩ : ∃ μ : Manager, μ =
                (((((σ.onUsecases fun cm => cm.newUsecase { usecase_id, type := c }).setConfig
                  σ.usecases.allocated (c.config.setUseCaseData hdr p r c usecase_id).2).onUsecases
                  fun cm => cm.open σ.usecases.allocated).setConfig σ.usecases.allocated
                  cfg).onUsecases fun cm => (cm.start σ.usecases.allocated).usecaseAdd see_id
                    usecase_id σ.usecases.allocated) := ⟨_, rfl⟩
            have hlist : c = .UsecaseACD →
                (μ.configs σ.usecases.allocated).requested_context_list = some p.contexts := by
              rw [hμ]
              simpa [setConfig, onUsecases] using hstored
            obtain ⟨rc', acks, hack, hans⟩ := acknowledge_spec hdr μ r see_id usecase_id hlist
            rw [← hμ]
            refine Or.inl ⟨c, rc', acks, _, rfl, ⟨ha, hopen, hcf, hstart⟩, hack, ?_, ?_, ?_, ?_, hans⟩
            · rw [hμ]
              exact ContextManager.ledger_usecaseAdd hsee hnew
            · intro q hq
              simp [hμ, setConfig, onUsecases, hq]
            · intro h
              simpa [hμ, setConfig, onUsecases] using hfree h
            · rw [hμ]
              rfl
          · rw [if_pos hstart]
            refine Or.inr ⟨_, _, ?_, rfl, hstart,
              .left { usecase_id, type := c } (Or.inr ?_) ?_ ?_ rfl⟩
            · rintro c' - ⟨-, -, -, hs⟩
              exact hstart hs
            · exact ContextManager.ledger_open_stopAndClose
            · intro q hq
              simp [setConfig, onUsecases, hq]
            · intro h
              simpa [setConfig, onUsecases] using hfree h
        · rw [if_pos (mt hrc.mp hcf)]
          refine Or.inr ⟨_, _, ?_, rfl, mt hrc.mp hcf,
            .left { usecase_id, type := c } (Or.inr ?_) ?_ ?_ rfl⟩
          · rintro c' h ⟨-, -, hs, -⟩
            cases h
            exact hcf hs
          · exact ContextManager.ledger_open_stopAndClose
          · intro q hq
            simp [setConfig, onUsecases, hq]
          · intro h
            simpa [setConfig, onUsecases] using hfree h
      · rw [if_pos hopen]
        refine Or.inr ⟨_, _, ?_, rfl, hopen,
          .left { usecase_id, type := c } (Or.inl rfl) ?_ ?_ rfl⟩
        · rintro c' - ⟨-, hs, -, -⟩
          exact hopen hs
        · intro q hq
          simp [setConfig, onUsecases, hq]
        · intro h
          simpa [setConfig, onUsecases] using hsdz h
    · rw [if_pos (mt hset.mp ha)]
      refine Or.inr ⟨_, _, ?_, rfl, mt hset.mp ha,
        .left { usecase_id, type := c } (Or.inl rfl) ?_ ?_ rfl⟩
      · rintro c' h ⟨hs, -, -, -⟩
        cases h
        exact ha hs
      · intro q hq
        simp [setConfig, onUsecases, hq]
      · intro h
        simpa [setConfig, onUsecases] using hsdz h

variable (hdr σ p r see_id usecase_id) in
/-- What becomes of a usecase that is stored already, by what its payload passes. -/
theorem registerAgain_cases {uc : ℕ} (hc : σ.usecases.classOf uc = c)
    (hsdz : c = .UsecaseSDZ → (σ.configs uc).requested_context_list = none) :
    ∃ rc acks τ, σ.registerAgain hdr see_id usecase_id uc p r = some (rc, τ) ∧
      τ.sent = σ.sent ++ acks ∧ (∀ q, q ≠ uc → τ.configs q = σ.configs q) ∧
      (c = .UsecaseSDZ → (τ.configs uc).requested_context_list = none) ∧
      ((¬Accepts hdr p r c ∧ rc ≠ 0 ∧ acks = [] ∧ τ.usecases.ledger = σ.usecases.ledger ∧
          ((τ.configs uc).stored = (σ.configs uc).stored ↔ Spares hdr p (σ.configs uc) c)) ∨
        (Accepts hdr p r c ∧ ¬Configures p r c ∧ rc ≠ 0 ∧ acks = [] ∧
          τ.usecases.ledger = σ.usecases.ledger.stopAndClose (σ.usecases.ledger.handle uc)) ∨
        (Accepts hdr p r c ∧ Configures p r c ∧ Answered (Acknowledges hdr p r c) rc acks ∧
          τ.usecases.ledger = σ.usecases.ledger ∧
          ((τ.configs uc).stored = (σ.configs uc).stored ↔ Repeats p (σ.configs uc) c))) := by
  subst hc
  obtain ⟨c, hc⟩ : ∃ c, c = σ.usecases.classOf uc := ⟨_, rfl⟩
  unfold registerAgain
  rw [← hc] at hsdz ⊢
  dsimp only
  have hset := UsecaseConfig.setUseCaseData_fst hdr (σ.configs uc) p r c usecase_id
  by_cases ha : Accepts hdr p r c
  · rw [if_neg (not_not.mpr (hset.mpr ha))]
    obtain ⟨hacd, hasr⟩ := UsecaseConfig.setUseCaseData_reads (σ.configs uc) usecase_id ha
    obtain ⟨rc, cfg, hconf, hrc, hfree, hkeep⟩ := UsecaseConfig.configure_spec (r := r) hacd hasr
    have hsame : cfg.stored = (σ.configs uc).stored ↔ Repeats p (σ.configs uc) c := by
      rw [hkeep (sdz_setUseCaseData hdr p r c usecase_id hsdz)]
      exact UsecaseConfig.stored_of_accepts usecase_id ha
    rw [hconf]
    dsimp only
    by_cases hcf : Configures p r c
    · rw [if_neg (not_not.mpr (hrc.mpr hcf))]
      have hstored := contexts_of_stored (c := c) (p := p) hacd hkeep
      obtain ⟨μ, hμ⟩ : ∃ μ : Manager, μ = ((σ.setConfig uc
          ((σ.configs uc).setUseCaseData hdr p r c usecase_id).2).setConfig uc cfg) := ⟨_, rfl⟩
      have hlist : c = .UsecaseACD → (μ.configs uc).requested_context_list = some p.contexts := by
        rw [hμ]
        simpa [setConfig] using hstored
      obtain ⟨rc', acks, hack, hans⟩ := acknowledge_spec hdr μ r see_id usecase_id hlist
      rw [← hμ]
      refine ⟨rc', acks, _, hack, ?_, ?_, ?_, Or.inr (Or.inr ⟨ha, hcf, hans, ?_, ?_⟩)⟩
      · rw [hμ]
        rfl
      · intro q hq
        simp [hμ, setConfig, hq]
      · intro h
        simpa [hμ, setConfig] using hfree h
      · rw [hμ]
        rfl
      · rw [← hsame]
        simp [hμ, setConfig]
    · rw [if_pos (mt hrc.mp hcf)]
      refine ⟨rc, [], _, rfl, by simp [setConfig, onUsecases], ?_, ?_, Or.inr (Or.inl
        ⟨ha, hcf, mt hrc.mp hcf, rfl, ContextManager.ledger_stopAndClose⟩)⟩
      · intro q hq
        simp [setConfig, onUsecases, hq]
      · intro h
        simpa [setConfig, onUsecases] using hfree h
  · rw [if_pos (mt hset.mp ha)]
    refine ⟨_, [], _, rfl, by simp [setConfig], ?_, ?_, Or.inl ⟨ha, mt hset.mp ha, rfl, rfl, ?_⟩⟩
    · intro q hq
      simp [setConfig, hq]
    · intro h
      simpa [setConfig] using sdz_setUseCaseData hdr p r c usecase_id hsdz h
    · rw [← UsecaseConfig.stored_of_not_accepts usecase_id ha]
      simp [setConfig]

/-! ### What a refusal must keep -/

/-- The configuration stored for the usecase under `k`. -/
def configOf (σ : Manager) (k : ℕ × ℕ) : Option StoredConfig :=
  (σ.usecases.ledger.stored k).map fun q => (σ.configs q).stored

/-- The same usecases run, with the configurations they had. -/
structure Undisturbed (σ τ : Manager) : Prop where
  running : ∀ k, τ.usecases.ledger.Runs k ↔ σ.usecases.ledger.Runs k
  config : ∀ k, σ.usecases.ledger.Runs k → τ.configOf k = σ.configOf k

/-- What was sent between the two. -/
def answers (σ τ : Manager) : List Ack := τ.sent.drop σ.sent.length

/-- A request that is answered by a failure ack is answered once, and has changed nothing. -/
def RefusalKeeps (σ τ : Manager) : Prop :=
  (∃ event_id status see_id, Ack.basic_ack event_id status see_id ∈ answers σ τ) →
    (answers σ τ).length = 1 ∧ Undisturbed σ τ

/-- The failure ack of the request cannot be sent; or the usecase is new, and does not fail in the
ack; or it runs, is accepted and configured, and fails in the ack only with the configuration it
has; or it runs, and is refused before anything of it is dropped. -/
def Harmless (hdr : Headers) (σ : Manager) (see_id usecase_id : ℕ) (p : Payload) (r : Calls) :
    Prop :=
  r.calloc_basic = false ∨ r.send_basic ≠ 0 ∨
    match σ.usecases.ledger.stored (see_id, usecase_id) with
    | none =>
      ∀ c, UsecaseFactory.usecaseCreate hdr.classes usecase_id { constructed := r.constructed } =
        some c → Starts hdr p r c → Acknowledges hdr p r c
    | some uc =>
      let c := σ.usecases.classOf uc
      σ.usecases.ledger.Runs (see_id, usecase_id) →
        if Accepts hdr p r c then
          Configures p r c ∧ (Acknowledges hdr p r c ∨ Repeats p (σ.configs uc) c)
        else Spares hdr p (σ.configs uc) c

/-- What holds of every manager: its ledger is well formed, and no SDZ usecase keeps a list. -/
structure Inv (σ : Manager) : Prop where
  wellformed : σ.usecases.ledger.Wellformed
  sdz : ∀ q uc, σ.usecases.ledger.heap q = some uc → uc.type = .UsecaseSDZ →
    (σ.configs q).requested_context_list = none

variable {k : ℕ × ℕ}

theorem undisturbed_congr {σ' : Manager} (hL : σ'.usecases.ledger = σ.usecases.ledger)
    (hcfg : σ'.configs = σ.configs) : Undisturbed σ' τ ↔ Undisturbed σ τ := by
  have hconf : ∀ k, σ'.configOf k = σ.configOf k := by
    intro k
    unfold configOf
    rw [hL, hcfg]
  constructor
  · rintro ⟨hrun, hc⟩
    exact ⟨by simpa only [hL] using hrun, by simpa only [hL, hconf] using hc⟩
  · rintro ⟨hrun, hc⟩
    exact ⟨by simpa only [hL] using hrun, by simpa only [hL, hconf] using hc⟩

theorem not_runs_of_stored_none {L : Ledger} (h : L.stored k = none) : ¬L.Runs k := by
  rintro ⟨_, ⟨p, _, hp, -⟩, -⟩
  rw [h] at hp
  cases hp

/-- A request that was acknowledged was not refused. -/
theorem refusalKeeps_of_ack {see_id usecase_id : ℕ} {payload : List ℕ}
    (h : τ.sent = σ.sent ++ [.register_ack see_id usecase_id payload]) : RefusalKeeps σ τ := by
  rintro ⟨event_id, status, see, hmem⟩
  simp [answers, h] at hmem

/-- A request that failed is answered by one basic ack, if that can be sent. -/
theorem refusalKeeps_failed_iff {rc : ℤ} {event_id : ℕ} (h : τ.sent = σ.sent) :
    RefusalKeeps σ { τ with sent := τ.sent ++ sendAspsBasicResponse r rc event_id see_id } ↔
      r.calloc_basic = false ∨ r.send_basic ≠ 0 ∨ Undisturbed σ τ := by
  have hans : answers σ { τ with
      sent := τ.sent ++ sendAspsBasicResponse r rc event_id see_id } =
        sendAspsBasicResponse r rc event_id see_id := by
    simp [answers, h]
  have hund : Undisturbed σ { τ with
      sent := τ.sent ++ sendAspsBasicResponse r rc event_id see_id } ↔ Undisturbed σ τ :=
    ⟨fun u => ⟨u.running, u.config⟩, fun u => ⟨u.running, u.config⟩⟩
  unfold RefusalKeeps
  rw [hans, hund]
  unfold sendAspsBasicResponse
  by_cases hno : r.calloc_basic = false ∨ r.send_basic ≠ 0
  · rw [if_pos hno]
    refine iff_of_true (by simp) ?_
    rcases hno with h | h
    · exact Or.inl h
    · exact Or.inr (Or.inl h)
  · rw [if_neg hno]
    obtain ⟨h1, h2⟩ := not_or.mp hno
    simp [h1, not_not.mp h2]

/-- The usecases that run are not touched where a new one is left behind. -/
theorem Sidelined.undisturbed (i : σ.Inv) (h : Sidelined σ τ) : Undisturbed σ τ := by
  cases h with
  | unchanged h =>
    subst h
    exact ⟨fun _ => Iff.rfl, fun _ _ => rfl⟩
  | left uc ledger configs sdz sent =>
    have hstored : τ.usecases.ledger.stored = σ.usecases.ledger.stored := by
      rcases ledger with h | h <;> rw [h] <;> rfl
    constructor
    · intro k
      rcases ledger with h | h
      · rw [h, i.wellformed.runs_leak]
      · rw [h, i.wellformed.runs_leakClosed]
    · intro k hk
      unfold configOf
      rw [hstored]
      cases hq : σ.usecases.ledger.stored k with
      | none => rfl
      | some q =>
        have hne : q ≠ σ.usecases.allocated := (i.wellformed.lt_allocated hq).ne
        simp [configs q hne]

theorem Inv.sidelined (i : σ.Inv) (h : Sidelined σ τ) : τ.Inv := by
  cases h with
  | unchanged h => exact h ▸ i
  | left uc ledger configs sdz sent =>
    have hheap : ∃ u : Usecase, u.type = uc.type ∧
        τ.usecases.ledger.heap = Function.update σ.usecases.heap σ.usecases.allocated (some u) := by
      rcases ledger with h | h
      · exact ⟨uc, rfl, by rw [h]; rfl⟩
      · exact ⟨{ uc with pal_stream := σ.usecases.handles }, rfl, by rw [h]; rfl⟩
    obtain ⟨u, htype, hheap⟩ := hheap
    constructor
    · rcases ledger with h | h
      · exact h ▸ i.wellformed.leak uc
      · exact h ▸ i.wellformed.leakClosed uc
    · intro q v hq hv
      rw [hheap] at hq
      by_cases hne : q = σ.usecases.allocated
      · subst hne
        rw [Function.update_self] at hq
        cases hq
        exact sdz (htype ▸ hv)
      · rw [Function.update_of_ne hne] at hq
        rw [configs q hne]
        exact i.sdz q v hq hv

theorem Inv.added {uc : Usecase} (i : σ.Inv) (hk : σ.usecases.ledger.stored k = none)
    (hL : τ.usecases.ledger = σ.usecases.ledger.add k uc)
    (hcfg : ∀ q, q ≠ σ.usecases.allocated → τ.configs q = σ.configs q)
    (hsdz : uc.type = .UsecaseSDZ →
      (τ.configs σ.usecases.allocated).requested_context_list = none) : τ.Inv := by
  constructor
  · rw [hL]
    exact i.wellformed.add hk
  · intro q v hq hv
    rw [hL] at hq
    by_cases hne : q = σ.usecases.allocated
    · subst hne
      have hq : some { uc with pal_stream := σ.usecases.handles } = some v := by
        simpa [Ledger.add, ContextManager.ledger] using hq
      cases hq
      exact hsdz hv
    · have hq : σ.usecases.ledger.heap q = some v := by
        simpa [Ledger.add, ContextManager.ledger, hne] using hq
      rw [hcfg q hne]
      exact i.sdz q v hq hv

/-- The heap is the same, and so is every configuration but one of a usecase that keeps the law. -/
theorem Inv.kept {uc : ℕ} (i : σ.Inv) (w : τ.usecases.ledger.Wellformed)
    (hheap : τ.usecases.ledger.heap = σ.usecases.ledger.heap)
    (hcfg : ∀ q, q ≠ uc → τ.configs q = σ.configs q)
    (hsdz : ∀ v, σ.usecases.ledger.heap uc = some v → v.type = .UsecaseSDZ →
      (τ.configs uc).requested_context_list = none) : τ.Inv where
  wellformed := w
  sdz q v hq hv := by
    rw [hheap] at hq
    by_cases hne : q = uc
    · subst hne
      exact hsdz v hq hv
    · rw [hcfg q hne]
      exact i.sdz q v hq hv

theorem Inv.sent (i : σ.Inv) (acks : List Ack) : Inv { σ with sent := acks } :=
  ⟨i.wellformed, i.sdz⟩

/-- The class of the object of a stored usecase. -/
theorem classOf_eq {uc : ℕ} {v : Usecase} (h : σ.usecases.ledger.heap uc = some v) :
    σ.usecases.classOf uc = v.type := by
  have h : σ.usecases.heap uc = some v := h
  unfold ContextManager.classOf
  rw [h]

/-- A request for a usecase that is stored is harmless where it does not run, or where it goes on
running with the same configuration. -/
theorem undisturbed_again_iff {uc : ℕ} (i : σ.Inv) (hst : σ.usecases.ledger.stored k = some uc)
    (hL : τ.usecases.ledger = σ.usecases.ledger)
    (hcfg : ∀ q, q ≠ uc → τ.configs q = σ.configs q) :
    Undisturbed σ τ ↔
      (σ.usecases.ledger.Runs k → (τ.configs uc).stored = (σ.configs uc).stored) := by
  have hconf : τ.configOf k = σ.configOf k ↔ (τ.configs uc).stored = (σ.configs uc).stored := by
    unfold configOf
    rw [hL, hst]
    simp
  constructor
  · intro u hk
    exact hconf.mp (u.config k hk)
  · intro h
    refine ⟨fun k' => by rw [hL], ?_⟩
    intro k' hk'
    by_cases hkk : k' = k
    · subst hkk
      exact hconf.mpr (h hk')
    · unfold configOf
      rw [hL]
      cases hq : σ.usecases.ledger.stored k' with
      | none => rfl
      | some q =>
        -- another usecase has another object
        have hne : q ≠ uc := by
          rintro rfl
          exact hkk (i.wellformed.stored_inj hq hst)
        simp [hcfg q hne]

/-- A usecase whose stream is closed does not run any more. -/
theorem undisturbed_closed_iff {uc : ℕ} (i : σ.Inv) (hst : σ.usecases.ledger.stored k = some uc)
    (hL : τ.usecases.ledger = σ.usecases.ledger.stopAndClose (σ.usecases.ledger.handle uc))
    (hcfg : ∀ q, q ≠ uc → τ.configs q = σ.configs q) :
    Undisturbed σ τ ↔ ¬σ.usecases.ledger.Runs k := by
  have hrun : ∀ k', τ.usecases.ledger.Runs k' ↔ σ.usecases.ledger.Runs k' ∧ k' ≠ k := by
    intro k'
    rw [hL]
    exact i.wellformed.runs_stopAndClose hst
  constructor
  · intro u hk
    exact ((hrun k).mp ((u.running k).mpr hk)).2 rfl
  · intro hk
    refine ⟨fun k' => ?_, ?_⟩
    · rw [hrun k']
      refine and_iff_left_of_imp ?_
      rintro hk' rfl
      exact hk hk'
    · intro k' hk'
      unfold configOf
      rw [hL]
      change (σ.usecases.ledger.stored k').map _ = _
      cases hq : σ.usecases.ledger.stored k' with
      | none => rfl
      | some q =>
        have hne : q ≠ uc := by
          rintro rfl
          exact hk (i.wellformed.stored_inj hq hst ▸ hk')
        simp [hcfg q hne]

theorem Inv.finished {rc : ℤ} {acks : List Ack} (i : τ.Inv) :
    Inv (if rc ≠ 0 then { τ with sent := acks } else τ) := by
  by_cases h : rc ≠ 0
  · rw [if_pos h]
    exact i.sent acks
  · rw [if_neg h]
    exact i

/-- **One register request.** It reads no configuration that is gone, it keeps what holds of every
manager, and it leaves everything as it was when it is refused exactly where it is harmless. -/
theorem register_request (hdr : Headers) (see_id usecase_id : ℕ) (p : Payload) (r : Calls)
    (i : σ.Inv) :
    ∃ rc τ, σ.processRegisterRequest hdr see_id usecase_id p r = some (rc, τ) ∧ τ.Inv ∧
      (RefusalKeeps σ τ ↔ Harmless hdr σ see_id usecase_id p r) := by
  obtain ⟨σ', hσ'⟩ : ∃ σ' : Manager,
      σ' = σ.onUsecases fun cm => cm.seeClientCreateIfAndGet see_id := ⟨_, rfl⟩
  have hL : σ'.usecases.ledger = σ.usecases.ledger := by
    rw [hσ']
    exact ContextManager.ledger_seeClientCreateIfAndGet
  have hcfg : σ'.configs = σ.configs := by rw [hσ']; rfl
  have hsent : σ'.sent = σ.sent := by rw [hσ']; rfl
  have hclass : σ'.usecases.classOf = σ.usecases.classOf := by rw [hσ']; rfl
  have i' : σ'.Inv := ⟨hL ▸ i.wellformed, by rw [hL, hcfg]; exact i.sdz⟩
  have hsee : see_id ∈ σ'.usecases.see_clients := by
    rw [hσ']
    exact ContextManager.mem_seeClientCreateIfAndGet
  have hget : σ'.usecases.usecaseGet see_id usecase_id =
      σ'.usecases.ledger.stored (see_id, usecase_id) := rfl
  unfold processRegisterRequest Harmless
  rw [← hσ', ← hL]
  dsimp only
  rw [hget]
  cases hst : σ'.usecases.ledger.stored (see_id, usecase_id) with
  | none =>
    dsimp only
    rcases registerNew_cases hdr p r hsee hst with
      ⟨c, rc, acks, τ, hc, hstart, hreg, hadd, hcfg', hsdz, hack, hans⟩ |
      ⟨rc, τ, hno, hreg, hrc, hside⟩
    · rw [hreg]
      refine ⟨rc, _, rfl, (i'.added hst hadd hcfg' hsdz).finished, ?_⟩
      cases hans with
      | ack hok _ _ payload =>
        rw [hsent] at hack
        refine iff_of_true (refusalKeeps_of_ack hack) (Or.inr (Or.inr ?_))
        intro c' hc' _
        rw [hc] at hc'
        cases hc'
        exact hok
      | failed hok hrc =>
        rw [List.append_nil, hsent] at hack
        rw [if_pos hrc, refusalKeeps_failed_iff hack]
        refine or_congr_right (or_congr_right ?_)
        -- the new usecase runs, whatever the answer says
        refine iff_of_false ?_ ?_
        · intro u
          have hruns : τ.usecases.ledger.Runs (see_id, usecase_id) := by
            rw [hadd, i'.wellformed.runs_add hst]
            exact Or.inr rfl
          have hnone := not_runs_of_stored_none hst
          rw [hL] at hnone
          exact hnone ((u.running _).mp hruns)
        · intro h
          exact hok (h c hc hstart)
    · rw [hreg]
      refine ⟨rc, _, rfl, (i'.sidelined hside).finished, ?_⟩
      have hack : τ.sent = σ.sent := by
        cases hside with
        | unchanged h => rw [h, hsent]
        | left _ _ _ _ h => rw [h, hsent]
      rw [if_pos hrc, refusalKeeps_failed_iff hack]
      refine or_congr_right (or_congr_right (iff_of_true ?_ ?_))
      · exact (undisturbed_congr hL hcfg).mp (hside.undisturbed i')
      · intro c hc hstart
        exact absurd hstart (hno c hc)
  | some uc =>
    dsimp only
    obtain ⟨v, hv, -⟩ := i'.wellformed.alive _ _ hst
    have htype := classOf_eq hv
    have hsdz : σ'.usecases.classOf uc = .UsecaseSDZ →
        (σ'.configs uc).requested_context_list = none := by
      intro h
      exact i'.sdz uc v hv (htype ▸ h)
    obtain ⟨rc, acks, τ, hreg, hack, hcfg', hsdz', hcases⟩ :=
      registerAgain_cases hdr σ' p r see_id usecase_id rfl hsdz
    have hfree : ∀ v, σ'.usecases.ledger.heap uc = some v → v.type = .UsecaseSDZ →
        (τ.configs uc).requested_context_list = none := by
      intro v' hv' h
      exact hsdz' ((classOf_eq hv').trans h)
    rw [hreg, ← hclass, ← hcfg]
    rw [hsent] at hack
    rcases hcases with ⟨ha, hrc, rfl, hL', hspare⟩ | ⟨ha, hcf, hrc, rfl, hL'⟩ |
      ⟨ha, hcf, hans, hL', hrep⟩
    · refine ⟨rc, _, rfl, (i'.kept (by rw [hL']; exact i'.wellformed) (by rw [hL']) hcfg'
        hfree).finished, ?_⟩
      rw [List.append_nil] at hack
      rw [if_pos hrc, refusalKeeps_failed_iff hack, if_neg ha, ← hspare]
      refine or_congr_right (or_congr_right ?_)
      rw [← undisturbed_congr hL hcfg]
      exact undisturbed_again_iff i' hst hL' hcfg'
    · refine ⟨rc, _, rfl, (i'.kept (by rw [hL']; exact i'.wellformed.stopAndClose hst)
        (by rw [hL']; rfl) hcfg' hfree).finished, ?_⟩
      rw [List.append_nil] at hack
      rw [if_pos hrc, refusalKeeps_failed_iff hack, if_pos ha]
      refine or_congr_right (or_congr_right ?_)
      rw [← undisturbed_congr hL hcfg, undisturbed_closed_iff i' hst hL' hcfg']
      exact forall_congr' fun _ => (iff_false_intro fun h => hcf h.1).symm
    · refine ⟨rc, _, rfl, (i'.kept (by rw [hL']; exact i'.wellformed) (by rw [hL']) hcfg'
        hfree).finished, ?_⟩
      rw [if_pos ha]
      cases hans with
      | ack hok _ _ payload =>
        refine iff_of_true (refusalKeeps_of_ack hack) (Or.inr (Or.inr ?_))
        exact fun _ => ⟨hcf, Or.inl hok⟩
      | failed hok hrc =>
        rw [List.append_nil] at hack
        rw [if_pos hrc, refusalKeeps_failed_iff hack]
        refine or_congr_right (or_congr_right ?_)
        rw [← undisturbed_congr hL hcfg, undisturbed_again_iff i' hst hL' hcfg', hrep]
        simp [hcf, hok]

/-! ### Runs of requests -/

theorem heap_of_releases {L L' : Ledger} (h : Relation.ReflTransGen Ledger.Release L L') {q : ℕ}
    {v : Usecase} (hq : L'.heap q = some v) : L.heap q = some v := by
  induction h with
  | refl => exact hq
  | @tail M N _ hr ih =>
    obtain ⟨k, p, _, rfl⟩ := hr
    have hq : Function.update M.heap p none q = some v := hq
    by_cases hqp : q = p
    · subst hqp
      simp at hq
    · rw [Function.update_of_ne hqp] at hq
      exact ih hq

/-- A command that releases usecases keeps what holds of every manager. -/
theorem Inv.released {cm : ContextManager} (i : σ.Inv) (acks : List Ack)
    (h : Relation.ReflTransGen Ledger.Release σ.usecases.ledger cm.ledger) :
    Inv { σ with usecases := cm, sent := acks } :=
  ⟨ContextManager.wellformed_releases h i.wellformed,
    fun q v hq hv => i.sdz q v (heap_of_releases h hq) hv⟩

theorem inv_init : Inv {} := ⟨ContextManager.wellformed_init, fun _ _ h => nomatch h⟩

/-- No command reads a configuration that is gone. -/
theorem process_eq_some (hdr : Headers) (i : σ.Inv) (req : Request) :
    ∃ τ, σ.process hdr req = some τ ∧ τ.Inv := by
  cases req with
  | register see_id usecase_id p r =>
    obtain ⟨rc, τ, h, hi, -⟩ := register_request hdr see_id usecase_id p r i
    refine ⟨τ, ?_, hi⟩
    change (σ.processRegisterRequest hdr see_id usecase_id p r).map Prod.snd = some τ
    rw [h]
    rfl
  | deregister see_id usecase_id r =>
    refine ⟨_, rfl, i.released _ ?_⟩
    rcases ContextManager.ledger_deregister σ.usecases see_id usecase_id with h | h
    · rw [h]
    · exact .single h
  | getContextIDs see_id => exact ⟨σ, rfl, i⟩
  | closeAll => exact ⟨_, rfl, i.released _ ContextManager.releases_closeAll⟩

/-- **A refused register request changes nothing.** After any requests, none of which reads a
configuration that an earlier one has freed, a register request that is answered by a failure ack
is answered once and leaves the running usecases and their configurations alone, exactly where it
is harmless. -/
theorem refusalKeeps_iff (hdr : Headers) (reqs : List Request) :
    ∃ σ, run (fun σ => process hdr σ) {} reqs = some σ ∧
      ∀ see_id usecase_id p r, ∃ τ,
        σ.process hdr (.register see_id usecase_id p r) = some τ ∧
          (RefusalKeeps σ τ ↔ Harmless hdr σ see_id usecase_id p r) := by
  have hm : Meets (fun σ => process hdr σ) (fun _ _ => True) {} reqs :=
    meets_of_forall (fun _ _ _ => trivial) _
  obtain ⟨σ, hσ, i⟩ := exists_run_of_meets
    (fun σ req _ (i : Inv σ) => process_eq_some hdr i req) hm inv_init
  refine ⟨σ, hσ, ?_⟩
  intro see_id usecase_id p r
  obtain ⟨rc, τ, h, -, hiff⟩ := register_request hdr see_id usecase_id p r i
  refine ⟨τ, ?_, hiff⟩
  change (σ.processRegisterRequest hdr see_id usecase_id p r).map Prod.snd = some τ
  rw [h]
  rfl

/-- The headers of a platform that knows the ACD usecase. -/
def acdHeaders : Headers := ⟨fun id => if id = 1 then some .UsecaseACD else none, 2, 3, 4, 12, 12, 8⟩

/-- A new ACD usecase with 300 contexts: it is stored and its stream is started, its ack has no
room for them, and `-ENODATA` is not the `ENODATA` that is asked again for. -/
theorem started_thenRefused :
    ¬∀ (hdr : Headers) (reqs : List Request) (σ τ : Manager) (see_id usecase_id : ℕ)
      (p : Payload) (r : Calls), run (fun σ => process hdr σ) {} reqs = some σ →
        σ.process hdr (.register see_id usecase_id p r) = some τ → RefusalKeeps σ τ := by
  intro h
  let p : Payload := { size := 1204, contexts := ⟨300, List.replicate 300 5⟩ }
  let r : Calls := { getModuleIIDs := (0, [9]) }
  obtain ⟨rc, τ, hreq, -, hiff⟩ := register_request acdHeaders 7 1 p r inv_init
  have hproc : process acdHeaders {} (.register 7 1 p r) = some τ := by
    change (processRegisterRequest acdHeaders {} 7 1 p r).map Prod.snd = some τ
    rw [hreq]
    rfl
  have hharmless := hiff.mp (h acdHeaders [] {} τ 7 1 p r rfl hproc)
  have hstarts : Starts acdHeaders p r .UsecaseACD := by
    refine ⟨?_, rfl, ?_, rfl⟩ <;> decide
  rcases hharmless with hcalloc | hsend | hnew
  · exact absurd hcalloc (by decide)
  · exact absurd hsend (by decide)
  · have hack : Acknowledges acdHeaders p r .UsecaseACD := hnew .UsecaseACD rfl hstarts
    exact absurd hack (by decide)

end Manager

end AudioReachPal.Context
