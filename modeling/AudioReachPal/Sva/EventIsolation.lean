import AudioReachPal.Lib.Observed
import AudioReachPal.Sva.ConfigCache
import AudioReachPal.Sva.EventIds

/-!
# The events of streams that share an interface

An interface keeps what a recognition config says for each stream, but for the levels that it caches:
there is one template for each of two versions, which every config that carries levels replaces and
every refused one frees. Two runs that differ only in the configs of other streams make the same event
where no such config changes what the events of the stream start from; and then the ids in the event
are those of the stream's own config.
-/

namespace AudioReachPal.Sva

open AudioReachPal.Lib

/-! ### Runs -/

/-- A call of another method: what it does to what is seen for `s` depends on nothing else, and it
leaves what the events of `s` start from. -/
structure OtherCall (M : Type) (s : StreamId) where
  act : SVAInterface M → Option (SVAInterface M)
  seen_congr : ∀ {I J I' J' : SVAInterface M}, I.seen s = J.seen s → act I = some I' →
    act J = some J' → I'.seen s = J'.seen s
  ownLevels : ∀ {I I' : SVAInterface M}, act I = some I' → I'.ownLevels s = I.ownLevels s

/-- What is called of an interface that `s` is registered with. -/
inductive SvaCall (M : Type) (s : StreamId) where
  | parseRecognitionConfig (env : ConfigEnv) (t : StreamId) (config : Option pal_st_recognition_config)
  | other (call : OtherCall M s)

section StoreInfo

variable {M : Type} {I : SVAInterface M} {s t : StreamId}
  {f : sound_model_info M → sound_model_info M}

/-- What a method does that stores in what the interface keeps of a stream. -/
def SVAInterface.storeInfo (I : SVAInterface M) (t : StreamId)
    (f : sound_model_info M → sound_model_info M) : SVAInterface M :=
  I.sm_info_map_[t]?.elim I fun i => I.setInfo t (f i)

theorem seen_storeInfo (htype : ∀ i, (f i).type = i.type)
    (hversion : ∀ i, (f i).conf_levels_intf_version = i.conf_levels_intf_version) :
    (I.storeInfo s f).seen s =
      ({ I.view s with info := (I.view s).info.map f }, I.ownLevels s) := by
  unfold SVAInterface.storeInfo
  cases hi : I.sm_info_map_[s]? with
  | none =>
    refine Prod.ext ?_ rfl
    show I.view s = { I.view s with info := I.sm_info_map_[s]?.map f }
    rw [hi, Option.map_none, ← hi]
    rfl
  | some i =>
    have hlevels : I.startLevels (f i) = I.startLevels i :=
      startLevels_congr rfl (htype i) (by rw [hversion])
    rw [Option.elim_some, seen_setInfo, hlevels]
    unfold SVAInterface.ownLevels SVAInterface.view
    rw [hi]
    rfl

theorem seen_storeInfo_of_ne (ht : t ≠ s) : (I.storeInfo t f).seen s = I.seen s := by
  unfold SVAInterface.storeInfo
  rcases I.sm_info_map_[t]? with _ | i
  · rfl
  · exact seen_setInfo_of_ne ht _

end StoreInfo

namespace OtherCall

variable {M : Type} {s : StreamId}

/-- An event of any stream. -/
def generateCallbackEvent (env : EventEnv) (t : StreamId) : OtherCall M s where
  act I := (I.generateCallbackEvent env t).map EventOut.intf
  seen_congr {I J I' J'} h hI hJ := by
    obtain ⟨out, hout, rfl⟩ := Option.map_eq_some_iff.mp hI
    obtain ⟨out', hout', rfl⟩ := Option.map_eq_some_iff.mp hJ
    by_cases ht : t = s
    · subst ht
      have hevent := generateCallbackEvent_congr env h
      rw [hout, hout'] at hevent
      exact congrArg Prod.fst (Option.some.inj hevent)
    · rw [seen_of_eventLeads_of_ne ht (generateCallbackEvent_leads hout), h,
        seen_of_eventLeads_of_ne ht (generateCallbackEvent_leads hout')]
  ownLevels {I I'} h := by
    obtain ⟨out, hout, rfl⟩ := Option.map_eq_some_iff.mp h
    exact ownLevels_of_eventLeads (generateCallbackEvent_leads hout) s

/-- A detection, as `ParseDetectionPayload` stores it. -/
def detection (t : StreamId) (det_event : detection_event) : OtherCall M s where
  act I := some { I with
    det_event_info_ := fun u => if u = t then some det_event else I.det_event_info_ u }
  seen_congr {I J I' J'} h hI hJ := by
    cases hI
    cases hJ
    obtain ⟨hview, hlevels⟩ := Prod.mk.inj h
    refine Prod.ext ?_ hlevels
    exact congrArg (fun v : View M => ({ v with
      det_event_info_ := if s = t then some det_event else v.det_event_info_ } : View M)) hview
  ownLevels {I I'} h := by
    cases h
    rfl

/-- Such a method, where it keeps the type of the model and the version. -/
def info (t : StreamId) (f : sound_model_info M → sound_model_info M)
    (htype : ∀ i, (f i).type = i.type)
    (hversion : ∀ i, (f i).conf_levels_intf_version = i.conf_levels_intf_version) :
    OtherCall M s where
  act I := some (I.storeInfo t f)
  seen_congr {I J I' J'} h hI hJ := by
    cases hI
    cases hJ
    by_cases ht : t = s
    · subst ht
      obtain ⟨hview, hlevels⟩ := Prod.mk.inj h
      rw [seen_storeInfo htype hversion, seen_storeInfo htype hversion, hview, hlevels]
    · rw [seen_storeInfo_of_ne ht, seen_storeInfo_of_ne ht, h]
  ownLevels {I I'} h := by
    cases h
    by_cases ht : t = s
    · subst ht
      exact congrArg Prod.snd (seen_storeInfo htype hversion)
    · exact congrArg Prod.snd (seen_storeInfo_of_ne ht)

end OtherCall

namespace SvaCall

variable {M : Type} {s : StreamId}

def step (I : SVAInterface M) : SvaCall M s → Option (SVAInterface M)
  | parseRecognitionConfig env t config => (I.parseRecognitionConfig env t config).map Prod.fst
  | other call => call.act I

theorem step_config {I I' : SVAInterface M} {env : ConfigEnv} {t : StreamId}
    {config : Option pal_st_recognition_config} {status : ℤ}
    (h : I.parseRecognitionConfig env t config = some (I', status)) :
    step I (parseRecognitionConfig env t config : SvaCall M s) = some I' :=
  Option.map_eq_some_iff.mpr ⟨_, h, rfl⟩

/-- The config of another stream. -/
def ForAnother : SvaCall M s → Prop
  | parseRecognitionConfig _ t _ => t ≠ s
  | other _ => False

/-- A config of another stream leaves what the events of the stream start from. -/
def Leaves (I : SVAInterface M) : SvaCall M s → Prop
  | parseRecognitionConfig env t config => t ≠ s → Sva.Leaves env I s t config
  | other _ => True

/-- A config of the stream that is accepted, and whose last levels are these. -/
def Accepts (levels : st_confidence_levels_info) (I : SVAInterface M) : SvaCall M s → Prop
  | parseRecognitionConfig env t config => t = s ∧ ∃ i c rs version,
    I.sm_info_map_[s]? = some i ∧ config = some c ∧ Passes env i c ∧ Records c rs ∧
      lastLevels c.opaqueData rs = some (version, levels)
  | other _ => False

/-- It is not a config of the stream that is accepted. -/
def NotAccepted (I : SVAInterface M) : SvaCall M s → Prop
  | parseRecognitionConfig env t config => t = s → ∀ i c, I.sm_info_map_[s]? = some i →
    config = some c → ¬ Passes env i c
  | other _ => True

/-- A config of the stream that is refused leaves what the events start from. -/
def RefusedLeaves (I : SVAInterface M) : SvaCall M s → Prop
  | parseRecognitionConfig env t config => t = s → ∀ i c, I.sm_info_map_[s]? = some i →
    config = some c → ¬ Passes env i c → I.StartsAs s none
  | other _ => True

end SvaCall

/-- The last config of the stream that is accepted has these levels last; it leads to `I'`, and `js` is
what follows. -/
def LastAccepted {M : Type} {s : StreamId} (I : SVAInterface M) (is : List (SvaCall M s))
    (levels : st_confidence_levels_info) (I' : SVAInterface M) (js : List (SvaCall M s)) : Prop :=
  ∃ ks call J, is = ks ++ call :: js ∧ run SvaCall.step I ks = some J ∧ call.Accepts levels J ∧
    SvaCall.step J call = some I' ∧ Meets SvaCall.step SvaCall.NotAccepted I' js

section Runs

variable {M : Type} {I I' J' : SVAInterface M} {s : StreamId} {is js : List (SvaCall M s)}

/-- **Two runs** that differ in configs of other streams end with the same seen. -/
theorem seen_eq_of_differIn (hdiffer : DifferIn SvaCall.ForAnother is js)
    (his : Meets SvaCall.step SvaCall.Leaves I is) (hjs : Meets SvaCall.step SvaCall.Leaves I js)
    (hI : run SvaCall.step I is = some I') (hJ : run SvaCall.step I js = some J') :
    I'.seen s = J'.seen s := by
  refine obs_eq_of_differIn (fun I => I.seen s) (fun {I J I' J' call} hcall h hI hJ => ?_)
    (fun {I I' call} hcall hleaves h => ?_) hdiffer his hjs rfl hI hJ
  · cases call with
    | parseRecognitionConfig env t config =>
      have ht : t = s := not_not.mp hcall
      subst ht
      obtain ⟨r, hr, rfl⟩ := Option.map_eq_some_iff.mp hI
      obtain ⟨r', hr', rfl⟩ := Option.map_eq_some_iff.mp hJ
      have hparse := parseRecognitionConfig_congr h env config
      rw [hr, hr'] at hparse
      exact congrArg Prod.fst (Option.some.inj hparse)
    | other call => exact call.seen_congr h hI hJ
  · cases call with
    | parseRecognitionConfig env t config =>
      obtain ⟨⟨I', status⟩, hr, rfl⟩ := Option.map_eq_some_iff.mp h
      exact (seen_config_iff hcall hr).mpr (hleaves hcall)
    | other call => exact hcall.elim

/-- The events of the stream start from the template of these levels, if they start from one. -/
def StartsFrom (levels : st_confidence_levels_info) (s : StreamId) (I : SVAInterface M) : Prop :=
  ∀ start, I.ownLevels s = some start → start = callbackLevels (some levels)

/-- After a config of the stream that is accepted, the events start from its last levels. -/
theorem startsFrom_of_accepts {call : SvaCall M s} {levels : st_confidence_levels_info}
    (haccepts : call.Accepts levels I) (h : SvaCall.step I call = some I') :
    StartsFrom levels s I' := by
  cases call with
  | other call => exact haccepts.elim
  | parseRecognitionConfig env t config =>
    obtain ⟨rfl, i, c, rs, version, hi, rfl, hpasses, hrecords, hlevels⟩ := haccepts
    obtain ⟨⟨I', status⟩, hparse, rfl⟩ := Option.map_eq_some_iff.mp h
    rcases parse_cases hi hparse with
      ⟨-, -, rs', st, hrecords', hcached, rfl⟩ | ⟨hrefused, -⟩
    · cases hrecords.unique hrecords'
      have htemplate := hcached.template version
      have hversion := hcached.version
      rw [lastCached_of_lastLevels hlevels, Option.some_or] at htemplate
      rw [hlevels, Option.map_some, Option.getD_some] at hversion
      intro start hstart
      have hown : (st.finish t).ownLevels t = (st.finish t).startLevels st.sm_info :=
        congrArg Prod.snd (seen_finished (I := st.I) _ _)
      rw [hown] at hstart
      unfold SVAInterface.startLevels at hstart
      split_ifs at hstart
      rw [← Option.some.inj hstart, hversion]
      exact congrArg callbackLevels htemplate
    · exact absurd hpasses hrefused

/-- **The step.** What the events start from is kept by every call but a config of the stream that is
accepted, where configs leave it. -/
theorem startsFrom_step {call : SvaCall M s} {levels : st_confidence_levels_info}
    (hleaves : call.Leaves I) (hnot : call.NotAccepted I) (hrefused : call.RefusedLeaves I)
    (hstarts : StartsFrom levels s I) (h : SvaCall.step I call = some I') :
    StartsFrom levels s I' := by
  cases call with
  | other call =>
    intro start hstart
    rw [call.ownLevels h] at hstart
    exact hstarts start hstart
  | parseRecognitionConfig env t config =>
    obtain ⟨⟨I', status⟩, hparse, rfl⟩ := Option.map_eq_some_iff.mp h
    intro start hstart
    by_cases ht : t = s
    · subst ht
      rw [ownLevels_of_refused (hnot rfl) (hrefused rfl) hparse] at hstart
      exact hstarts start hstart
    · have hseen := (seen_config_iff ht hparse).mpr (hleaves ht)
      exact hstarts start ((congrArg Prod.snd hseen).symm.trans hstart)

/-- **The events of a stream.** Two runs that differ only in configs of other streams make the same
event, where these leave what the events of the stream start from; and the ids in it are those of the
last config of the stream that was accepted, if none that was refused since has freed them. -/
theorem events_isolated (hdiffer : DifferIn SvaCall.ForAnother is js)
    (his : Meets SvaCall.step SvaCall.Leaves I is) (hjs : Meets SvaCall.step SvaCall.Leaves I js)
    (hI : run SvaCall.step I is = some I') (hJ : run SvaCall.step I js = some J') (env : EventEnv) :
    (I'.generateCallbackEvent env s).map EventOut.given =
        (J'.generateCallbackEvent env s).map EventOut.given ∧
      ∀ levels I₁ ks, LastAccepted I is levels I₁ ks →
        Meets SvaCall.step SvaCall.RefusedLeaves I₁ ks →
          ∀ out event, I'.generateCallbackEvent env s = some out → out.event = some event →
            ∀ r ∈ event.opaque_data, Record.HasIds levels r := by
  constructor
  · have hevent := generateCallbackEvent_congr env
      (seen_eq_of_differIn hdiffer his hjs hI hJ)
    exact map_eq_of_map_eq (fun _ _ h => congrArg Prod.snd h) hevent
  · rintro levels I₁ ks ⟨is₁, call, J, rfl, hJ, haccepts, hcall, hlast⟩ hrefused out event hout hevent
    have hrest : run SvaCall.step I₁ ks = some I' := by
      rw [run_append, hJ, Option.bind_some, run_cons, hcall, Option.bind_some] at hI
      exact hI
    have hleaves := (his.drop hJ).2 I₁ hcall
    have hstarts : StartsFrom levels s I' := run_invariant_of_meets
      (fun _ _ _ hok hstarts h => startsFrom_step hok.1 hok.2.1 hok.2.2 hstarts h)
      (hleaves.and (hlast.and hrefused)) (startsFrom_of_accepts haccepts hcall) hrest
    refine hasIds_generateCallbackEvent (fun start hstart => ?_) hout hevent
    have heq := hstarts _ hstart
    unfold callbackLevels at heq
    dsimp only at heq
    split_ifs at heq
    rw [Option.some.inj heq, st_confidence_levels_info.ids_ids]

end Runs

/-! ### Two streams -/

/-- A record with the levels of one model that has one keyword. -/
def oneModelBytes : List UInt8 :=
  [0, 0, 0, 0, 212, 21, 0, 0] ++
    [1, 0, 0, 0, 1, 0, 0, 0, 1, 0, 0, 0, 1, 0, 0, 0, 60, 0, 0, 0, 0] ++ List.replicate 5567 0

def oneModelConfig : pal_st_recognition_config where
  capture_requested := true
  phrases := [⟨0, 60, []⟩]
  data_size := 5596
  opaqueData := oneModelBytes
  data_size_eq := by
    unfold oneModelBytes
    rw [List.length_append, List.length_append, List.length_replicate]
    rfl
  data_size_lt := by decide

/-- A config whose opaque data are too short for a record to be read. -/
def phrasesConfig : pal_st_recognition_config where
  capture_requested := true
  phrases := [⟨0, 60, []⟩]
  data_size := 12
  opaqueData := List.replicate 12 0
  data_size_eq := rfl
  data_size_lt := by decide

def secondStream : sound_model_info Unit := { pdkStream with model_id := 1282 }

/-- Two streams with a keyphrase model each. -/
def twoStreams : SVAInterface Unit :=
  { pdkInterface with sm_info_map_ := pdkInterface.sm_info_map_.insert 2 secondStream }

def oneModelDetection : detection_event :=
  ⟨.pdk_event_info_ ⟨1, Vector.replicate _ ⟨1281, 0, 72, 0, 0⟩⟩, 16000, 32000⟩

def plainEventEnv : EventEnv := ⟨48, 1640, 104, true, 0⟩

/-- The stream is configured and its keyword is detected; `calls` come between. -/
def configured (calls : List (SvaCall Unit 1)) : List (SvaCall Unit 1) :=
  .parseRecognitionConfig plainEnv 1 (some oneModelConfig) ::
    (calls ++ [.other (.detection 1 oneModelDetection)])

/-- Configs of another stream come between. -/
theorem differIn_configured (t : StreamId) (config : Option pal_st_recognition_config) (ht : t ≠ 1) :
    DifferIn SvaCall.ForAnother (configured [])
      (configured [.parseRecognitionConfig plainEnv t config]) := by
  have hother : SvaCall.ForAnother (.parseRecognitionConfig plainEnv t config : SvaCall Unit 1) := ht
  exact .both _ (.right hother (.both _ .nil))

/-- The numbers of models in the levels of an event. -/
def models (records : List Record) : List ℕ :=
  records.filterMap fun r =>
    match r.payload with
    | .conf_levels c => some c.num_sound_models
    | _ => none

/-- The opaque data that `generateCallbackEvent` builds. -/
def SVAInterface.opaqueData {M : Type} (I : SVAInterface M) (env : EventEnv) (s : StreamId) :
    Option (List Record) :=
  ((I.generateCallbackEvent env s).bind EventOut.event).map pal_st_recognition_event.opaque_data

/-- A config of the other stream that is refused frees the levels: the event has no model. -/
theorem not_events_isolated :
    ¬ ∀ (I I' J' : SVAInterface Unit) (s : StreamId) (is js : List (SvaCall Unit s)),
      (∃ t, t ≠ s ∧ s ∈ I.sm_info_map_ ∧ t ∈ I.sm_info_map_) →
        DifferIn SvaCall.ForAnother is js → run SvaCall.step I is = some I' →
          run SvaCall.step I js = some J' → ∀ env, I'.opaqueData env s = J'.opaqueData env s := by
  intro h
  have hmodels : ((run SvaCall.step twoStreams (configured [])).bind fun I =>
      I.opaqueData plainEventEnv 1).map models = some [1] := by
    decide +kernel
  have hnone : ((run SvaCall.step twoStreams (configured
      [.parseRecognitionConfig plainEnv 2 (some strayConfig)])).bind fun I =>
        I.opaqueData plainEventEnv 1).map models = some [0] := by
    decide +kernel
  have hdiffer : DifferIn SvaCall.ForAnother (configured [])
      (configured [.parseRecognitionConfig plainEnv 2 (some strayConfig)]) :=
    differIn_configured _ _ (by decide)
  cases hI : run SvaCall.step twoStreams (configured []) with
  | none =>
    rw [hI] at hmodels
    cases hmodels
  | some I' =>
    cases hJ : run SvaCall.step twoStreams (configured
        [.parseRecognitionConfig plainEnv 2 (some strayConfig)]) with
    | none =>
      rw [hJ] at hnone
      cases hnone
    | some J' =>
      rw [hI, Option.bind_some,
        h twoStreams I' J' 1 _ _ ⟨2, by decide, by decide, by decide⟩ hdiffer hI hJ] at hmodels
      rw [hJ, Option.bind_some, hmodels] at hnone
      exact absurd hnone (by decide)

/-- The only record of the config. -/
theorem oneModelConfig_records : Records oneModelConfig [⟨0, 0, 5588, ()⟩] := by
  have hsize : oneModelConfig.data_size > CUSTOM_CONFIG_OPAQUE_DATA_SIZE := by decide
  unfold Records
  rw [if_pos hsize]
  refine laid_iff_laidTo.mpr ⟨⟨rfl, ?_, ?_⟩, ?_⟩
  · decide +kernel
  · decide +kernel
  · exact oneModelConfig.data_size_eq.symm

/-- The config is accepted. -/
theorem oneModelConfig_accepted :
    (twoStreams.parseRecognitionConfig plainEnv 1 (some oneModelConfig)).map Prod.snd = some 0 := by
  decide +kernel

theorem oneModelConfig_accepts : SvaCall.Accepts (paramLevels oneModelBytes 8) twoStreams
    (.parseRecognitionConfig plainEnv 1 (some oneModelConfig) : SvaCall Unit 1) := by
  obtain ⟨⟨I, status⟩, hparse, rfl⟩ := Option.map_eq_some_iff.mp oneModelConfig_accepted
  have hi : twoStreams.sm_info_map_[1]? = some pdkStream := by decide
  refine ⟨rfl, pdkStream, oneModelConfig, _, field oneModelBytes 8, hi, rfl, ?_, oneModelConfig_records, ?_⟩
  · rcases parse_cases hi hparse with ⟨hpasses, -⟩ | ⟨-, hstatus, -⟩
    · exact hpasses
    · exact absurd rfl hstatus
  · rfl

/-- A config of phrases leaves what is seen for the other stream. -/
theorem phrasesConfig_leaves {I : SVAInterface Unit}
    (hi : I.sm_info_map_[2]? = some secondStream) :
    Leaves plainEnv I 1 2 (some phrasesConfig) := by
  have hsize : ¬ phrasesConfig.data_size > CUSTOM_CONFIG_OPAQUE_DATA_SIZE := by decide
  intro i c hi' hc
  cases hi.symm.trans hi'
  cases hc
  constructor
  · intro _ rs j levels hrecords _ hlevels
    unfold Records at hrecords
    rw [if_neg hsize] at hrecords
    cases hrecords
    cases hlevels
  · intro hfails
    refine absurd ?_ hfails
    unfold Passes
    rw [if_neg hsize]
    exact fun _ => by decide

theorem phrasesConfig_parsed {I : SVAInterface Unit}
    (hi : I.sm_info_map_[2]? = some secondStream) :
    ∃ I', I.parseRecognitionConfig plainEnv 2 (some phrasesConfig) = some (I', 0) := by
  have hsize : ¬ phrasesConfig.data_size > CUSTOM_CONFIG_OPAQUE_DATA_SIZE := by decide
  have htype : secondStream.type = .PAL_SOUND_MODEL_TYPE_KEYPHRASE := rfl
  rw [parseRecognitionConfig_some _ _ hi, if_neg hsize, if_pos htype]
  exact ⟨_, rfl⟩

/-- The second stream is sent its phrases while the first one is configured. -/
theorem events_isolated_twoStreams : ∃ I' J' : SVAInterface Unit,
    run SvaCall.step twoStreams (configured []) = some I' ∧
      run SvaCall.step twoStreams (configured
        [.parseRecognitionConfig plainEnv 2 (some phrasesConfig)]) = some J' ∧
      (I'.generateCallbackEvent plainEventEnv 1).map EventOut.given =
        (J'.generateCallbackEvent plainEventEnv 1).map EventOut.given ∧
      ∀ out event, I'.generateCallbackEvent plainEventEnv 1 = some out → out.event = some event →
        ∀ r ∈ event.opaque_data, Record.HasIds (paramLevels oneModelBytes 8) r := by
  obtain ⟨⟨I, status⟩, hparse, rfl⟩ := Option.map_eq_some_iff.mp oneModelConfig_accepted
  have hstep : SvaCall.step twoStreams
      (.parseRecognitionConfig plainEnv 1 (some oneModelConfig) : SvaCall Unit 1) = some I :=
    SvaCall.step_config hparse
  have hother : I.sm_info_map_[2]? = some secondStream := by
    have hi : twoStreams.sm_info_map_[1]? = some pdkStream := by decide
    rcases parse_cases hi hparse with ⟨-, -, rs, st, -, hcached, rfl⟩ | ⟨-, hstatus, -⟩
    · exact view_info (view_finish_of_ne (s := 2) (by decide) hcached.same)
    · exact absurd rfl hstatus
  obtain ⟨J, hphrases⟩ := phrasesConfig_parsed hother
  have hstep' : SvaCall.step I
      (.parseRecognitionConfig plainEnv 2 (some phrasesConfig) : SvaCall Unit 1) = some J :=
    SvaCall.step_config hphrases
  obtain ⟨I', hI⟩ : ∃ I', run SvaCall.step I [(.other (.detection 1 oneModelDetection) :
    SvaCall Unit 1)] = some I' := ⟨_, rfl⟩
  obtain ⟨J', hJ⟩ : ∃ J', run SvaCall.step J [(.other (.detection 1 oneModelDetection) :
    SvaCall Unit 1)] = some J' := ⟨_, rfl⟩
  have hI' : run SvaCall.step twoStreams (configured []) = some I' :=
    (run_cons_eq_some _).mpr ⟨I, hstep, hI⟩
  have hJ' : run SvaCall.step twoStreams (configured
      [.parseRecognitionConfig plainEnv 2 (some phrasesConfig)]) = some J' :=
    (run_cons_eq_some _).mpr ⟨I, hstep, (run_cons_eq_some _).mpr ⟨J, hstep', hJ⟩⟩
  have hown : SvaCall.Leaves twoStreams
      (.parseRecognitionConfig plainEnv 1 (some oneModelConfig) : SvaCall Unit 1) :=
    fun h => absurd rfl h
  have hphrases : SvaCall.Leaves I
      (.parseRecognitionConfig plainEnv 2 (some phrasesConfig) : SvaCall Unit 1) :=
    fun _ => phrasesConfig_leaves hother
  have hdetected : ∀ I : SVAInterface Unit, Meets SvaCall.step SvaCall.Leaves I
      [(.other (.detection 1 oneModelDetection) : SvaCall Unit 1)] :=
    meets_of_forall fun I call hcall => by
      rw [List.mem_singleton.mp hcall]
      trivial
  have hthm := events_isolated (differIn_configured 2 (some phrasesConfig) (by decide))
    (meets_cons_of_some hown hstep (hdetected I))
    (meets_cons_of_some hown hstep (meets_cons_of_some hphrases hstep' (hdetected J)))
    hI' hJ' plainEventEnv
  have hlast : LastAccepted twoStreams (configured []) (paramLevels oneModelBytes 8) I
      [.other (.detection 1 oneModelDetection)] :=
    ⟨[], _, twoStreams, rfl, rfl, oneModelConfig_accepts, hstep, trivial, fun _ _ => trivial⟩
  exact ⟨I', J', hI', hJ', hthm.1, hthm.2 _ _ _ hlast ⟨trivial, fun _ _ => trivial⟩⟩

end AudioReachPal.Sva
