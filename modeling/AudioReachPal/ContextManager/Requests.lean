import AudioReachPal.ContextManager.Usecases
import AudioReachPal.Lib.MachineInt

/-!
# Register requests and what they leave behind

A register request carries a configuration, which the usecase's class reads in `setUseCaseData`,
keeps, and hands to the stream in `configure`. The request is answered by a register ack, or by a
basic ack with the error. Here the usecases have their configurations, and the answers are those
that reach the sensor side.

`none` is a `NULL` configuration that is read.
-/

namespace AudioReachPal.Context

open AudioReachPal.Lib

def ENODATA : ℤ := 61

/-! ### What a request carries -/

/-- `pal_param_context_list` -/
structure pal_param_context_list where
  num_contexts : ℕ
  context_id : List ℕ
  deriving DecidableEq, Repr

/-- The payload of the version 2; the older one begins with the same `stream_type`. -/
structure asps_pcm_data_v2_usecase_register_payload_t where
  stream_type : ℕ
  requires_buffering : ℕ
  bit_width : ℕ
  sample_rate : ℕ
  num_channels : ℕ
  deriving DecidableEq, Repr

/-- The payload of the renderer, with the channel types that follow it. -/
structure asps_ultrasound_rendering_usecase_register_payload_t where
  sampling_rate : ℕ
  num_channels : ℕ
  bit_width : ℕ
  channel_type : List ℕ
  deriving DecidableEq, Repr

structure asps_asr_usecase_register_payload_t where
  language_code : ℕ
  enable_sdz : ℕ
  frame_length_ms : ℕ
  deriving DecidableEq, Repr

/-- `size` and `data` of a register request. The classes read different structures from `data`, also
where `size` does not reach that far; `data` is false where the copy of the payload is `NULL`. -/
structure Payload where
  size : ℕ
  data : Bool := true
  contexts : pal_param_context_list := ⟨0, []⟩
  pcm : asps_pcm_data_v2_usecase_register_payload_t := ⟨0, 0, 0, 0, 0⟩
  renderer : asps_ultrasound_rendering_usecase_register_payload_t := ⟨0, 0, 0, []⟩
  asr : asps_asr_usecase_register_payload_t := ⟨0, 0, 0⟩
  deriving DecidableEq, Repr

/-- What the sensor side's headers declare. -/
structure Headers where
  classes : ℕ → Option UsecaseClass
  ASPS_USECASE_ID_PCM_DATA_V2 : ℕ
  EVENT_ID_ASPS_SENSOR_REGISTER_REQUEST : ℕ
  EVENT_ID_ASPS_SENSOR_DEREGISTER_REQUEST : ℕ
  sizeof_asps_ultrasound_rendering_usecase_register_payload_t : ℕ
  sizeof_asps_asr_usecase_register_payload_t : ℕ
  sizeof_asps_acd_usecase_register_ack_payload_t : ℕ

/-- What the calls of one register request return. `getModuleIIDs` gives its status and the ids of
the modules, and is asked a second time after `ENODATA`. -/
structure Calls where
  constructed : Bool := true
  calloc_data : Bool := true
  palStreamOpen : ℤ := 0
  calloc_list : Bool := true
  asr_platform : Bool := true
  calloc_param : Bool := true
  getDefaultASRConfig : ℤ := 0
  set_param : ℤ := 0
  calloc_frame : Bool := true
  set_frame : ℤ := 0
  add_remove_effect : ℤ := 0
  palStreamStart : ℤ := 0
  calloc_ack : Bool := true
  getModuleIIDs : ℤ × List ℕ := (0, [])
  calloc_ack_again : Bool := true
  getModuleIIDs_again : ℤ × List ℕ := (0, [])
  calloc_response : Bool := true
  send_response : ℤ := 0
  calloc_basic : Bool := true
  send_basic : ℤ := 0
  deriving DecidableEq, Repr

/-! ### The configuration of a usecase -/

inductive pal_device_id_t where
  | PAL_DEVICE_NONE
  | PAL_DEVICE_IN_HANDSET_VA_MIC
  | PAL_DEVICE_IN_ULTRASOUND_MIC
  deriving DecidableEq, Repr

/-- The first of a usecase's `pal_devices`. -/
structure pal_device where
  id : pal_device_id_t := .PAL_DEVICE_NONE
  bit_width : ℕ := 0
  sample_rate : ℕ := 0
  channels : ℕ := 0
  custom_key : String := ""
  deriving DecidableEq, Repr

structure pal_media_config where
  sample_rate : ℕ := 0
  bit_width : ℕ := 0
  channels : ℕ := 0
  ch_map : List ℕ := []
  deriving DecidableEq, Repr

/-- What a usecase keeps of its requests. The members of the classes are together, and a class
leaves those of the others alone; no constructor sets `pcm_data_type`. -/
structure UsecaseConfig where
  requested_context_list : Option pal_param_context_list := none
  pcm_data_type : ℕ := 0
  pcm_data_buffering : ℕ := 0
  asr_reg_config : Option asps_asr_usecase_register_payload_t := none
  pal_devices : pal_device := {}
  out_media_config : pal_media_config := {}
  deriving DecidableEq, Repr

/-- The configuration that the constructor leaves. -/
def UsecaseClass.config : UsecaseClass → UsecaseConfig
  | .UsecaseACD | .UsecasePCMData | .UsecaseSDZ =>
    { pal_devices := ⟨.PAL_DEVICE_IN_HANDSET_VA_MIC, 16, 16000, 1, ""⟩ }
  | .UsecaseASR => { pal_devices := ⟨.PAL_DEVICE_IN_HANDSET_VA_MIC, 16, 48000, 2, ""⟩ }
  | .UsecaseUPD | .UsecasePCMRenderer => {}

def PCM_DATA_EFFECT_RAW : ℕ := 1
def PCM_DATA_EFFECT_NS : ℕ := 2

namespace UsecaseConfig

variable (hdr : Headers) (cfg : UsecaseConfig) (p : Payload) (r : Calls)

/-- The least size that a list of `num_contexts` needs: a negative `int` is a large `size_t`. -/
def contextsSize (num_contexts : ℕ) : ℕ :=
  size64 (4 + size64 (int32ToSize (int32 num_contexts) * 4))

/-- `UsecaseACD::SetUseCaseData` -/
def setContexts : ℤ × UsecaseConfig :=
  if p.size = 0 ∨ p.data = false then (-EINVAL, cfg)
  else
    let cfg := { cfg with requested_context_list := none }
    if p.size < contextsSize p.contexts.num_contexts then (-EINVAL, cfg)
    else if r.calloc_data = false then (-ENOMEM, cfg)
    else (0, { cfg with requested_context_list := some p.contexts })

/-- What the version 2 of the PCM data sets before the type is looked at. -/
def setPcmV2 : UsecaseConfig :=
  { cfg with
    pcm_data_buffering := p.pcm.requires_buffering
    pal_devices :=
      { cfg.pal_devices with
        bit_width := p.pcm.bit_width
        sample_rate := p.pcm.sample_rate
        channels := p.pcm.num_channels
        id :=
          if p.pcm.sample_rate = 16000 then .PAL_DEVICE_IN_HANDSET_VA_MIC
          else if p.pcm.sample_rate = 48000 ∨ p.pcm.sample_rate = 96000 then
            .PAL_DEVICE_IN_ULTRASOUND_MIC
          else cfg.pal_devices.id } }

/-- `UsecasePCMData::SetUseCaseData` -/
def setPcm (usecase_id : ℕ) : ℤ × UsecaseConfig :=
  if p.size = 0 ∨ p.data = false then (-EINVAL, cfg)
  else
    let cfg := if usecase_id = hdr.ASPS_USECASE_ID_PCM_DATA_V2 then cfg.setPcmV2 p else cfg
    if p.pcm.stream_type ≠ PCM_DATA_EFFECT_RAW ∧ p.pcm.stream_type ≠ PCM_DATA_EFFECT_NS then
      (-EINVAL, cfg)
    else (0, { cfg with pcm_data_type := p.pcm.stream_type })

/-- `UsecasePCMRenderer::SetUseCaseData` -/
def setRenderer : ℤ × UsecaseConfig :=
  let size := hdr.sizeof_asps_ultrasound_rendering_usecase_register_payload_t
  if p.size < size ∨ p.data = false then (-EINVAL, cfg)
  else
    let cfg := { cfg with
      out_media_config := { cfg.out_media_config with sample_rate := p.renderer.sampling_rate } }
    if 2 < p.renderer.num_channels then (-EINVAL, cfg)
    else
      let cfg := { cfg with
        out_media_config := { cfg.out_media_config with
          channels := p.renderer.num_channels, bit_width := p.renderer.bit_width } }
      if p.size - size < p.renderer.num_channels then (-EINVAL, cfg)
      else
        let custom_key :=
          if p.renderer.num_channels = 1 then
            if p.renderer.channel_type.head? = some 1 then "top-spkr" else "bottom-spkr"
          else "stereo-spkr"
        (0, { cfg with
          out_media_config := { cfg.out_media_config with
            ch_map := p.renderer.channel_type.take p.renderer.num_channels }
          pal_devices := { cfg.pal_devices with custom_key } })

/-- `UsecaseASR::SetUseCaseData`. The old configuration is not freed. -/
def setAsr : ℤ × UsecaseConfig :=
  if p.data = false ∨ p.size ≠ hdr.sizeof_asps_asr_usecase_register_payload_t then (-EINVAL, cfg)
  else if r.calloc_data = false then (-ENOMEM, { cfg with asr_reg_config := none })
  else (0, { cfg with asr_reg_config := some p.asr })

/-- `setUseCaseData` of the class; two classes keep the base class's, which does nothing. -/
def setUseCaseData (c : UsecaseClass) (usecase_id : ℕ) : ℤ × UsecaseConfig :=
  match c with
  | .UsecaseACD => cfg.setContexts p r
  | .UsecasePCMData => cfg.setPcm hdr p usecase_id
  | .UsecasePCMRenderer => cfg.setRenderer hdr p
  | .UsecaseASR => cfg.setAsr hdr p r
  | .UsecaseUPD | .UsecaseSDZ => (0, cfg)

/-- `UsecaseACD::Configure` -/
def configureContexts : Option ℤ :=
  match cfg.requested_context_list with
  | none => none
  | some requested_context_list =>
    if requested_context_list.num_contexts = 0 then some (-EINVAL)
    else if r.calloc_param = false then some (-ENOMEM)
    else some r.set_param

/-- `UsecasePCMData::Configure` -/
def configurePcm : ℤ :=
  if r.calloc_param = false then -ENOMEM
  else if r.set_param ≠ 0 then r.set_param
  else r.add_remove_effect

/-- `UsecaseSDZ::Configure`. The list it allocates is freed at the exit. -/
def configureSdz : ℤ × UsecaseConfig :=
  (if r.calloc_list = false then -ENOMEM
    else if r.calloc_param = false then -ENOMEM
    else r.set_param,
   { cfg with requested_context_list := none })

/-- `UsecaseASR::Configure` -/
def configureAsr : ℤ :=
  if cfg.asr_reg_config = none then -EINVAL
  else if r.asr_platform = false then -EINVAL
  else if r.calloc_param = false then -ENOMEM
  else if r.getDefaultASRConfig ≠ 0 then r.getDefaultASRConfig
  else if r.set_param ≠ 0 then r.set_param
  else if r.calloc_frame = false then -ENOMEM
  else r.set_frame

/-- `configure` of the class; two classes keep the base class's, which does nothing. -/
def configure (c : UsecaseClass) : Option (ℤ × UsecaseConfig) :=
  match c with
  | .UsecaseACD => (cfg.configureContexts r).map fun rc => (rc, cfg)
  | .UsecasePCMData => some (configurePcm r, cfg)
  | .UsecaseSDZ => some (cfg.configureSdz r)
  | .UsecaseASR => some (cfg.configureAsr r, cfg)
  | .UsecaseUPD | .UsecasePCMRenderer => some (0, cfg)

/-- `getAckDataOnSuccessfullStart`: the status, `*size` and the data. `UsecaseACD` has its own. -/
def getAckDataOnSuccessfullStart (c : UsecaseClass) (size : ℕ) (iids : ℤ × List ℕ) :
    Option (ℤ × ℕ × List ℕ) :=
  if iids.1 ≠ 0 then some (iids.1, size, [])
  else match c with
    | .UsecaseACD =>
      match cfg.requested_context_list with
      | none => none
      | some requested_context_list =>
        let need := size64 (hdr.sizeof_asps_acd_usecase_register_ack_payload_t +
          4 * requested_context_list.num_contexts)
        if need ≤ size then
          some (0, word32 need, iids.2.headD 0 :: requested_context_list.num_contexts ::
            requested_context_list.context_id)
        else some (-ENODATA, word32 need, [])
    | _ => some (0, word32 (4 * iids.2.length), iids.2)

end UsecaseConfig

/-! ### The answers -/

/-- What reaches the sensor side. -/
inductive Ack where
  | register_ack (see_sensor_iid usecase_id : ℕ) (payload : List ℕ)
  | basic_ack (asps_event_id : ℕ) (error_code : ℤ) (see_sensor_iid : ℕ)
  deriving DecidableEq, Repr

def ACKDATA_DEFAULT_SIZE : ℕ := 1024

/-- The part of `buildAndSendRegisterAck` that has the data of the ack. -/
def sendRegisterAck (r : Calls) (see_id uc_id : ℕ) (got : ℤ × ℕ × List ℕ) : ℤ × List Ack :=
  if got.1 ≠ 0 then (got.1, [])
  else if r.calloc_response = false then (-ENOMEM, [])
  else if r.send_response ≠ 0 then (r.send_response, [])
  else (0, [.register_ack see_id uc_id got.2.2])

/-- `buildAndSendRegisterAck`: the status and what was sent. -/
def buildAndSendRegisterAck (hdr : Headers) (c : UsecaseClass) (cfg : UsecaseConfig) (r : Calls)
    (see_id uc_id : ℕ) : Option (ℤ × List Ack) :=
  if r.calloc_ack = false then some (-ENOMEM, [])
  else match cfg.getAckDataOnSuccessfullStart hdr c ACKDATA_DEFAULT_SIZE r.getModuleIIDs with
    | none => none
    | some got =>
      if got.1 = ENODATA then
        if r.calloc_ack_again = false then some (-ENOMEM, [])
        else (cfg.getAckDataOnSuccessfullStart hdr c got.2.1 r.getModuleIIDs_again).map
          (sendRegisterAck r see_id uc_id)
      else some (sendRegisterAck r see_id uc_id got)

/-- `sendAspsBasicResponse`: what was sent. -/
def sendAspsBasicResponse (r : Calls) (status : ℤ) (event_id see_id : ℕ) : List Ack :=
  if r.calloc_basic = false ∨ r.send_basic ≠ 0 then []
  else [.basic_ack event_id status see_id]

/-! ### The requests -/

/-- The context manager with the configuration of each usecase, by its pointer, and the answers
sent so far. -/
structure Manager where
  usecases : ContextManager := {}
  configs : ℕ → UsecaseConfig := fun _ => {}
  sent : List Ack := []

namespace Manager

variable (hdr : Headers) (σ : Manager)

def setConfig (p : ℕ) (cfg : UsecaseConfig) : Manager :=
  { σ with configs := Function.update σ.configs p cfg }

def onUsecases (f : ContextManager → ContextManager) : Manager :=
  { σ with usecases := f σ.usecases }

/-- The register ack that ends both branches of a register request. -/
def acknowledge (see_id usecase_id uc : ℕ) (c : UsecaseClass) (r : Calls) :
    Option (ℤ × Manager) :=
  (buildAndSendRegisterAck hdr c (σ.configs uc) r see_id usecase_id).map fun ack =>
    (ack.1, { σ with sent := σ.sent ++ ack.2 })

/-- The branch of a usecase that is not there yet. -/
def registerNew (see_id usecase_id : ℕ) (p : Payload) (r : Calls) : Option (ℤ × Manager) :=
  match UsecaseFactory.usecaseCreate hdr.classes usecase_id { constructed := r.constructed } with
  | none => some (-EINVAL, σ)
  | some c =>
    let uc := σ.usecases.allocated
    let set := c.config.setUseCaseData hdr p r c usecase_id
    let σ := (σ.onUsecases fun cm => cm.newUsecase { usecase_id, type := c }).setConfig uc set.2
    if set.1 ≠ 0 then some (set.1, σ)
    else if r.palStreamOpen ≠ 0 then some (r.palStreamOpen, σ)
    else
      let σ := σ.onUsecases fun cm => cm.open uc
      match set.2.configure r c with
      | none => none
      | some (rc, cfg) =>
        let σ := σ.setConfig uc cfg
        if rc ≠ 0 then some (rc, σ.onUsecases fun cm => cm.stopAndClose uc)
        else if r.palStreamStart ≠ 0 then
          some (r.palStreamStart, σ.onUsecases fun cm => cm.stopAndClose uc)
        else
          (σ.onUsecases fun cm => (cm.start uc).usecaseAdd see_id usecase_id uc).acknowledge hdr
            see_id usecase_id uc c r

/-- The branch of a usecase that is running: only its configuration is new. -/
def registerAgain (see_id usecase_id uc : ℕ) (p : Payload) (r : Calls) : Option (ℤ × Manager) :=
  let c := σ.usecases.classOf uc
  let set := (σ.configs uc).setUseCaseData hdr p r c usecase_id
  let σ := σ.setConfig uc set.2
  if set.1 ≠ 0 then some (set.1, σ)
  else match set.2.configure r c with
    | none => none
    | some (rc, cfg) =>
      let σ := σ.setConfig uc cfg
      if rc ≠ 0 then some (rc, σ.onUsecases fun cm => cm.stopAndClose uc)
      else σ.acknowledge hdr see_id usecase_id uc c r

def processRegisterRequest (see_id usecase_id : ℕ) (p : Payload) (r : Calls) :
    Option (ℤ × Manager) :=
  let σ := σ.onUsecases fun cm => cm.seeClientCreateIfAndGet see_id
  let res :=
    match σ.usecases.usecaseGet see_id usecase_id with
    | none => σ.registerNew hdr see_id usecase_id p r
    | some uc => σ.registerAgain hdr see_id usecase_id uc p r
  res.map fun (rc, σ) =>
    (rc, if rc ≠ 0 then
      { σ with sent := σ.sent ++
          sendAspsBasicResponse r rc hdr.EVENT_ID_ASPS_SENSOR_REGISTER_REQUEST see_id }
      else σ)

/-- The commands of the queue, with what the calls that each of them makes return. The supported
context ids come from the platform's configuration and touch nothing here. -/
inductive Request where
  | register (see_id usecase_id : ℕ) (p : Payload) (r : Calls)
  | deregister (see_id usecase_id : ℕ) (r : Calls)
  | getContextIDs (see_id : ℕ)
  | closeAll
  deriving DecidableEq, Repr

/-- `process` of a command. -/
def process : Request → Option Manager
  | .register see_id usecase_id p r =>
    (σ.processRegisterRequest hdr see_id usecase_id p r).map Prod.snd
  | .deregister see_id usecase_id r =>
    let res := σ.usecases.processDeregisterRequest see_id usecase_id
    some { σ with
      usecases := res.2
      sent := σ.sent ++
        sendAspsBasicResponse r res.1 hdr.EVENT_ID_ASPS_SENSOR_DEREGISTER_REQUEST see_id }
  | .getContextIDs _ => some σ
  | .closeAll => some (σ.onUsecases ContextManager.closeAll)

end Manager

end AudioReachPal.Context
