import Mnslp.Msg.OutputRun

/-! The messages that a program builds: by edits, outputs and copies in any order, outputs that
throw in the middle included. -/
namespace Mnslp.Msg
open Mnslp.Lib Call

namespace MnslpIpfixMessage

/-- The constructor without arguments leaves `require_output` as the memory had it. -/
def newDefault (now : Nat) (requireOutput : Bool) : MnslpIpfixMessage :=
  init ⟨.null,0,0,[],true,requireOutput⟩ now 0 ipfixVersion

def setEncodeMode (m : MnslpIpfixMessage) (encodeNetwork : Bool) : MnslpIpfixMessage := {m with encodeNetwork := encodeNetwork}

/-- `add_field` and `add_scope_field` with an element that `add_vendor_information_element` has
put into the field container of the message. -/
def addElement (m : MnslpIpfixMessage) (isscopefield : Bool) (templid : UInt16) (field : IpfixFieldType)
    (length : UInt16) : Call MnslpIpfixMessage := do
  let t ← m.liveMessage
  let templ ← t.templates.getTemplate templid
  if isscopefield ∧ templ.type ≠ .optionTemplate then badArgument "The template is not an option template"
  else if templ.getNumfields < templ.maxfields ∧ (isscopefield ∨ field.ftype < ipfixEftVendorBit.toNat) then
    let added : IpfixTemplateField := ⟨length,.known,m.encodeNetwork,field⟩
    let templates := t.templates.updateTemplate templid fun templ =>
      if isscopefield then templ.addScopeField added else templ.addDataField added
    return {m with message := .live {t with templates := templates}, requireOutput := true}
  else badArgument "Maximum number of field reach"

def deleteTemplate (m : MnslpIpfixMessage) (templid : UInt16) : Call MnslpIpfixMessage := do
  let t ← m.liveMessage
  let templates ← t.templates.deleteTemplate templid
  return {m with message := .live {t with templates := templates}, requireOutput := true}

def deleteAllTemplates (m : MnslpIpfixMessage) : Call MnslpIpfixMessage := do
  let t ← m.liveMessage
  return {m with message := .live {t with templates := .empty}, requireOutput := true}

/-- `operator=`, which keeps its own `message` where the other one has none. -/
def assign (m other : MnslpIpfixMessage) : MnslpIpfixMessage :=
  {other.copy with
    message := match other.message with | .null => m.message | _ => other.copy.message
    requireOutput := true}

end MnslpIpfixMessage

/-- The public methods that change the content of a message. `make_template` is a sequence of them. -/
inductive Edit
  | newTemplate (type : IpfixTemplType) (nfields : Nat)
  | addField (templid : UInt16) (eno : UInt32) (type length : UInt16)
  | addScopeField (templid : UInt16) (eno : UInt32) (type length : UInt16)
  | addElement (isscopefield : Bool) (templid : UInt16) (field : IpfixFieldType) (length : UInt16)
  | deleteTemplate (templid : UInt16)
  | deleteAllTemplates
  | includeData (templid : UInt16) (record : IpfixDataRecord)
  | setEncodeMode (encodeNetwork : Bool)

def MnslpIpfixMessage.edit (m : MnslpIpfixMessage) : Edit → Call MnslpIpfixMessage
  | .newTemplate type nfields => (newTypedTemplate type m nfields).map Prod.fst
  | .addField templid eno type length => m.addField templid eno type length
  | .addScopeField templid eno type length => m.addScopeField templid eno type length
  | .addElement isscopefield templid field length => m.addElement isscopefield templid field length
  | .deleteTemplate templid => m.deleteTemplate templid
  | .deleteAllTemplates => m.deleteAllTemplates
  | .includeData templid record => m.includeData templid record
  | .setEncodeMode encodeNetwork => .ok (m.setEncodeMode encodeNetwork)

/-- The state in which a loop ends or an exception leaves it. -/
def stoppedAt {σ α : Type} (f : σ → α → Call σ) : List α → σ → σ
  | [], s => s
  | a :: rest, s =>
    match f s a with
    | .ok next => stoppedAt f rest next
    | .error _ => s

theorem stoppedAt_invariant {σ α : Type} {f : σ → α → Call σ} (Inv : σ → Prop)
    (keep : ∀ s a next, Inv s → f s a = .ok next → Inv next) (list : List α) {s : σ} (start : Inv s) :
    Inv (stoppedAt f list s) := by
  induction list generalizing s with
  | nil => exact start
  | cons a rest ih =>
    unfold stoppedAt
    split
    · rename_i next taken
      exact ih (keep s a next start taken)
    · exact start

/-- What an exception of `output_set` leaves. -/
def outputSetStopped (encodeNetwork : Bool) (now : Nat) (dataList : List IpfixDataRecord) (t : IpfixT) (templid : UInt16) :
    IpfixT :=
  match t.templates.getTemplate templid with
  | .error _ => t
  | .ok templ =>
    match frontStep encodeNetwork now t templid templ with
    | .error _ => t
    | .ok t =>
      let newset := decide (templ.tid.toNat ≠ t.csTid)
      let t := if newset ∧ t.csTid > 0 then t.finishCs (headerOrder encodeNetwork) else t
      (stoppedAt (outputRecord encodeNetwork newset templ) dataList (t,if newset then 4 else 0)).1

def outputSetsStopped (encodeNetwork : Bool) (now : Nat) (dataList : List IpfixDataRecord) : List UInt16 → IpfixT → IpfixT
  | [], t => t
  | templid :: rest, t =>
    match outputSet encodeNetwork now dataList t templid with
    | .ok next => outputSetsStopped encodeNetwork now dataList rest next
    | .error _ => outputSetStopped encodeNetwork now dataList t templid

namespace MnslpIpfixMessage

/-- What an exception of `output` leaves: the templates written so far count as sent. -/
def outputStopped (now : Nat) (m : MnslpIpfixMessage) : MnslpIpfixMessage :=
  match m.message with
  | .live t =>
    let t := t.reinitiateBuffer
    let isOption := fun templid => (t.templates.find templid).any (fun templ => templ.type = .optionTemplate)
    let lst := t.templates.keys.filter isOption ++ t.templates.keys.filter fun templid => !isOption templid
    {m with message := .live (outputSetsStopped m.encodeNetwork now m.dataList lst t)}
  | _ => m

/-- The messages a program can have. -/
inductive Built : MnslpIpfixMessage → Prop
  | new {m} (now : Nat) (sourceid : UInt32) (version : UInt16) (encodeNetwork : Bool)
      (made : MnslpIpfixMessage.new now sourceid version encodeNetwork = .ok m) : Built m
  | newDefault (now : Nat) (requireOutput : Bool) : Built (MnslpIpfixMessage.newDefault now requireOutput)
  | edit {m m'} (edit : Edit) (built : Built m) (ended : m.edit edit = .ok m') : Built m'
  | output {m m'} (now : Nat) (built : Built m) (ended : m.output now = .ok m') : Built m'
  /-- The flag is set before the number of fields is looked at. -/
  | newTemplateRefused {m} (built : Built m) : Built {m with requireOutput := true}
  | outputStopped {m exception} (now : Nat) (built : Built m) (ended : m.output now = Call.throw exception) :
      Built (m.outputStopped now)
  | copy {m} (built : Built m) : Built m.copy
  | assign {m other} (built : Built m) (source : Built other) : Built (m.assign other)

/-- What holds of a message between two calls. -/
structure Settled (m : MnslpIpfixMessage) (t : IpfixT) : Prop where
  live : m.message = .live t
  idle : t.Idle
  keyed : t.templates.Keyed
  inside : m.requireOutput = false → t.offset ≤ t.bufferLenght

end MnslpIpfixMessage

section
variable {encodeNetwork : Bool} {now : Nat} {dataList : List IpfixDataRecord} {t t' start : IpfixT}

/-- What an output, ended or not, keeps of the message. -/
structure IpfixT.Kept (start t : IpfixT) : Prop extends t.Idle where
  content : t.templates.copy = start.templates.copy

theorem IpfixT.Kept.grows {front behind : Bytes} (kept : start.Kept t) (grows : t.Grows t' front behind) : start.Kept t' :=
  ⟨grows.toIdle,grows.content.trans kept.content⟩

theorem kept_outputSet {templid : UInt16} (kept : start.Kept t)
    (ended : outputSet encodeNetwork now dataList t templid = .ok t') : start.Kept t' := by
  cases found : t.templates.find templid with
  | none =>
    unfold outputSet at ended
    rw [TemplateContainer.getTemplate_of_absent found] at ended
    cases ended
  | some templ =>
    obtain ⟨t'',again,grows,_⟩ := outputSet_grows encodeNetwork now kept.toIdle found (of_outputSet kept.toIdle found ended)
    cases ended.symm.trans again
    exact kept.grows grows

theorem kept_outputSetStopped {templid : UInt16} (kept : start.Kept t) :
    start.Kept (outputSetStopped encodeNetwork now dataList t templid) := by
  unfold outputSetStopped
  cases found : t.templates.find templid with
  | none =>
    rw [TemplateContainer.getTemplate_of_absent found]
    exact kept
  | some templ =>
    rw [TemplateContainer.getTemplate_of_find found]
    dsimp only
    cases front : frontStep encodeNetwork now t templid templ with
    | error stop => exact kept
    | ok fronted =>
      have described := of_frontStep found front
      obtain ⟨fronted',again,grows,_⟩ := frontStep_grows encodeNetwork now kept.toIdle found
        (fun unsent => (described unsent).1) (fun unsent => (described unsent).2)
      cases front.symm.trans again
      dsimp only
      rw [grows.csTid,if_neg (fun both => absurd both.2 (Nat.lt_irrefl 0))]
      refine stoppedAt_invariant (fun state : IpfixT × Nat => start.Kept state.1) ?_ dataList (kept.grows grows)
      intro state record next before taken
      by_cases mine : record.templateId = templ.tid
      · obtain ⟨one,writable,room⟩ := of_outputRecord mine rfl taken
        obtain ⟨next',same,grown,_⟩ := outputRecord_grows encodeNetwork before.toIdle mine one writable room
        cases taken.symm.trans same
        exact before.grows grown
      · rw [outputRecord_other mine] at taken
        cases taken
        exact before

theorem kept_outputSetsStopped (lst : List UInt16) (kept : start.Kept t) :
    start.Kept (outputSetsStopped encodeNetwork now dataList lst t) := by
  induction lst generalizing t with
  | nil => exact kept
  | cons templid rest ih =>
    unfold outputSetsStopped
    split
    · rename_i next ended
      exact ih (kept_outputSet kept ended)
    · exact kept_outputSetStopped kept

end

namespace MnslpIpfixMessage
variable {m m' : MnslpIpfixMessage} {t : IpfixT}

theorem Settled.ofKept {t' : IpfixT} (settled : m.Settled t) (kept : t.Kept t') (live : m'.message = .live t')
    (inside : m'.requireOutput = false → t'.offset ≤ t'.bufferLenght) : m'.Settled t' where
  live := live
  idle := kept.toIdle
  keyed := TemplateContainer.keyed_copy.mp (by rw [kept.content]; exact TemplateContainer.keyed_copy.mpr settled.keyed)
  inside := inside

theorem settled_of_required (live : m.message = .live t) (idle : t.Idle) (keyed : t.templates.Keyed)
    (required : m.requireOutput = true) : m.Settled t :=
  ⟨live,idle,keyed,fun not => absurd (required.symm.trans not) (by decide)⟩

/-- Other templates, to be written with the next output. -/
theorem Settled.withTemplates (settled : m.Settled t) {templates : TemplateContainer} (keyed : templates.Keyed)
    (live : m'.message = .live {t with templates := templates}) (required : m'.requireOutput = true) :
    m'.Settled {t with templates := templates} :=
  settled_of_required live ⟨settled.idle.csTid,settled.idle.csHeader⟩ keyed required

theorem Settled.withUpdate (settled : m.Settled t) {f : IpfixTemplate → IpfixTemplate} {templid : UInt16}
    (live : m'.message = .live {t with templates := t.templates.updateTemplate templid f})
    (named : ∀ templ, (f templ).tid = templ.tid) (required : m'.requireOutput = true) : ∃ t', m'.Settled t' := ⟨_,settled.withTemplates (settled.keyed.updateTemplate named templid) live required⟩

theorem settled_addElement (settled : m.Settled t) {isscopefield : Bool} {templid length : UInt16} {field : IpfixFieldType}
    (ended : m.addElement isscopefield templid field length = .ok m') : ∃ t', m'.Settled t' := by
  unfold addElement at ended
  rw [liveMessage_eq_ok settled.live,ok_bind] at ended
  obtain ⟨templ,_,ended⟩ := bind_eq_ok.mp ended
  split at ended
  · cases ended
  · split at ended
    · cases ended
      refine settled.withUpdate rfl (fun templ => ?_) rfl
      split <;> rfl
    · cases ended

theorem settled_edit (settled : m.Settled t) {edit : Edit} (ended : m.edit edit = .ok m') : ∃ t', m'.Settled t' := by
  have live := settled.live
  cases edit with
  | newTemplate type nfields =>
    simp only [MnslpIpfixMessage.edit,newTypedTemplate_eq type live] at ended
    split at ended
    · cases ended
    · cases ended
      refine ⟨_,settled.withTemplates ?_ rfl rfl⟩
      refine (settled.keyed.addTemplate _).updateTemplate ?_ _
      exact fun _ => rfl
  | addField templid eno type length =>
    change m.addField templid eno type length = .ok m' at ended
    unfold addField at ended
    rw [liveMessage_eq_ok live,ok_bind] at ended
    obtain ⟨templ,_,ended⟩ := bind_eq_ok.mp ended
    split at ended
    · obtain ⟨field,_,ended⟩ := bind_eq_ok.mp ended
      cases ended
      exact settled.withUpdate rfl (fun _ => rfl) rfl
    · cases ended
  | addScopeField templid eno type length =>
    change m.addScopeField templid eno type length = .ok m' at ended
    unfold addScopeField at ended
    rw [liveMessage_eq_ok live,ok_bind] at ended
    obtain ⟨templ,_,ended⟩ := bind_eq_ok.mp ended
    dsimp only at ended
    by_cases option : templ.type ≠ .optionTemplate
    · rw [if_pos option] at ended
      cases ended
    · rw [if_neg option] at ended
      split at ended
      · obtain ⟨field,_,ended⟩ := bind_eq_ok.mp ended
        cases ended
        exact settled.withUpdate rfl (fun _ => rfl) rfl
      · cases ended
  | addElement isscopefield templid field length => exact settled_addElement settled ended
  | deleteTemplate templid =>
    change m.deleteTemplate templid = .ok m' at ended
    unfold deleteTemplate TemplateContainer.deleteTemplate at ended
    rw [liveMessage_eq_ok live,ok_bind] at ended
    obtain ⟨templates,erased,ended⟩ := bind_eq_ok.mp ended
    cases ended
    split at erased
    · cases erased
      exact ⟨_,settled.withTemplates (settled.keyed.erase templid) rfl rfl⟩
    · cases erased
  | deleteAllTemplates =>
    change m.deleteAllTemplates = .ok m' at ended
    unfold deleteAllTemplates at ended
    rw [liveMessage_eq_ok live,ok_bind] at ended
    cases ended
    exact ⟨_,settled.withTemplates TemplateContainer.keyed_empty rfl rfl⟩
  | includeData templid record =>
    change m.includeData templid record = .ok m' at ended
    unfold includeData at ended
    rw [liveMessage_eq_ok live,ok_bind] at ended
    obtain ⟨templ,_,ended⟩ := bind_eq_ok.mp ended
    split at ended
    · cases ended
    · cases ended
      exact ⟨t,settled_of_required live settled.idle settled.keyed rfl⟩
  | setEncodeMode encodeNetwork =>
    cases ended
    exact ⟨t,live,settled.idle,settled.keyed,settled.inside⟩

/-- An output that returns has written all into its buffer. -/
theorem settled_output (settled : m.Settled t) {now : Nat} (ended : m.output now = .ok m') : ∃ t', m'.Settled t' := by
  by_cases required : m.requireOutput = true
  · have fits := of_output settled.live settled.idle settled.keyed required ended
    obtain ⟨sets,t',again,grows,grown,room⟩ := output_grows now settled.live settled.idle settled.keyed required fits
    cases ended.symm.trans again
    have kept : t.Kept t' := ⟨grown.toIdle,grown.content.trans grows.content⟩
    refine ⟨t',settled.ofKept kept rfl fun _ => ?_⟩
    rw [grown.offset,grown.bufferLenght,grows.bufferLenght,length_hdr,grows.version]
    exact room
  · unfold output at ended
    rw [if_neg required] at ended
    cases ended
    exact ⟨t,settled⟩

theorem settled_outputStopped (settled : m.Settled t) {now : Nat} {exception : Thrown}
    (ended : m.output now = Call.throw exception) : ∃ t', (m.outputStopped now).Settled t' := by
  have required : m.requireOutput = true := by
    by_contra not
    unfold output at ended
    rw [if_neg not] at ended
    cases ended
  have start : t.Kept t.reinitiateBuffer := ⟨⟨settled.idle.csTid,settled.idle.csHeader⟩,rfl⟩
  unfold outputStopped
  rw [settled.live]
  refine ⟨_,settled.ofKept (kept_outputSetsStopped _ start) rfl fun not => ?_⟩
  exact absurd (required.symm.trans not) (by decide)

theorem Settled.copied (settled : m.Settled t) : m.copy.Settled t.copy where
  live := by rw [copy,settled.live]
  idle := ⟨settled.idle.csTid,by rw [IpfixT.copy,settled.idle.csHeader]; rfl⟩
  keyed := TemplateContainer.keyed_copy.mpr settled.keyed
  inside := settled.inside

theorem settled_init (m : MnslpIpfixMessage) (now : Nat) (sourceid : UInt32) (version : UInt16) :
    ∃ t, (m.init now sourceid version).Settled t :=
  ⟨_,rfl,⟨rfl,rfl⟩,TemplateContainer.keyed_empty,fun _ => Nat.zero_le _⟩

theorem Built.settled (built : m.Built) : ∃ t, m.Settled t := by
  induction built with
  | new now sourceid version encodeNetwork made =>
    unfold MnslpIpfixMessage.new at made
    split at made
    · cases made
      exact settled_init _ _ _ _
    · cases made
  | newDefault now requireOutput => exact settled_init _ _ _ _
  | edit edit _ ended ih =>
    obtain ⟨t,settled⟩ := ih
    exact settled_edit settled ended
  | output now _ ended ih =>
    obtain ⟨t,settled⟩ := ih
    exact settled_output settled ended
  | newTemplateRefused _ ih =>
    obtain ⟨t,settled⟩ := ih
    exact ⟨t,settled_of_required settled.live settled.idle settled.keyed rfl⟩
  | outputStopped now _ ended ih =>
    obtain ⟨t,settled⟩ := ih
    exact settled_outputStopped settled ended
  | copy _ ih =>
    obtain ⟨t,settled⟩ := ih
    exact ⟨_,settled.copied⟩
  | assign _ _ _ ih =>
    obtain ⟨t,settled⟩ := ih
    have copied := settled.copied
    refine ⟨t.copy,settled_of_required ?_ copied.idle copied.keyed rfl⟩
    rw [MnslpIpfixMessage.assign,settled.live]
    exact copied.live

end MnslpIpfixMessage
end Mnslp.Msg
