import Mnslp.Installer.PolicyAction
import Mnslp.Lib.Machine
import Mnslp.Msg.MnslpObject

/-! Loading the actions of a node from a document, after `read_from_xml` of the classes
`policy_action_container`, `policy_action` and `netmate_ipfix_policy_action_mapping`, which share
one reader. -/
namespace Mnslp.Installer
open Mnslp.Lib Mnslp.Msg

structure XmlNode where
  depth : Int
  type : Int
  name : Option Text := none
  attributes : List (Text × Text) := []
  value : Option Text := none

def xmlReaderTypeElement : Int := 1

def xmlReaderTypeText : Int := 3

def xmlReaderTypeEndElement : Int := 15

/-- The reader with its positions from the current one on. The first position is in front of the
nodes; `behind` is what it tells when it has left the last one. -/
structure XmlReader where
  positions : List (Option XmlNode)
  behind : Option XmlNode := none
  broken : Bool := false
  isValid : Int := 1

namespace XmlReader

def new (nodes : List XmlNode) : XmlReader := {positions := none :: nodes.map some}

/-- `xmlTextReaderRead` -/
def read (reader : XmlReader) : Int × XmlReader :=
  let positions := reader.positions.tail
  (if positions ≠ [] then 1 else if reader.broken then -1 else 0,{reader with positions := positions})

def current (reader : XmlReader) : Option XmlNode := reader.positions.head?.getD reader.behind

def depth (reader : XmlReader) : Int := (reader.current.map XmlNode.depth).getD 0

def nodeType (reader : XmlReader) : Int := (reader.current.map XmlNode.type).getD 0

def name (reader : XmlReader) : Option Text := reader.current.bind XmlNode.name

def value (reader : XmlReader) : Option Text := reader.current.bind XmlNode.value

def getAttribute (reader : XmlReader) (attrName : Text) : Option Text :=
  reader.current.bind fun node => node.attributes.lookup attrName

end XmlReader

/-- The errors of a configuration differ in their texts only. -/
def configurationFailed {α : Type} (text : String) : Call α :=
  Call.throw (.policyRuleInstallerError text MnslpMsg.scPermanentFailure MnslpMsg.failConfigurationFailed)

def processAttribute (reader : XmlReader) (attrName : Text) : Call Text :=
  match reader.getAttribute attrName with
  | some value => return value
  | none => configurationFailed "Configuration file does not parse"

/-- The loop that looks for a text, with the positions that it reads. -/
def textLoop (level : Int) (reader : XmlReader) : List (Option XmlNode) → Call (Text × XmlReader)
  | [] => configurationFailed "Configuration file does not parse"
  | position :: rest =>
    let reader := {reader with positions := position :: rest}
    match if reader.depth ≥ level ∧ reader.nodeType = xmlReaderTypeText then reader.value else none with
    | some value => return (value,reader)
    | none =>
      if reader.depth < level then configurationFailed "Export configuration file does not parse"
      else textLoop level reader rest

def processTextNode (level : Int) (reader : XmlReader) : Call (Text × XmlReader) :=
  textLoop level reader reader.positions.tail

/-- A loop by its rounds, which lead to the next one or to what the loop returns. -/
def rounds {σ ρ : Type} (round : σ → Call (σ ⊕ ρ)) : Machine σ (Call ρ) := fun s =>
  match round s with
  | .ok (.inl next) => .inl next
  | .ok (.inr result) => .inr (.ok result)
  | .error stop => .inr (.error stop)

/-- A loop that goes on for more rounds than the bound does not end. -/
def runLoop {σ ρ : Type} (round : σ → Call (σ ⊕ ρ)) (bound : σ → Nat) (s : σ) : Call ρ :=
  (Machine.run (rounds round) (bound s + 1) s).getD (.error .endless)

/-- Positions to come, and the round in which the loop finds that there are none. -/
def bound (ret : Int) (reader : XmlReader) : Nat := reader.positions.length + if ret = 1 then 1 else 0

/-- The constructor from the texts of a document. -/
def ApplicationFieldMapping.new (configuration filter exporting applicationKey : Text) : Call ApplicationFieldMapping :=
  let isConfigurationField : Bool := configuration = "true".toList
  let isFilterField : Bool := filter = "true".toList
  let isExportField : Bool := exporting = "true".toList
  if isConfigurationField ∧ ¬ isFilterField ∧ ¬ isExportField then
    return ⟨isConfigurationField,isFilterField,isExportField,[]⟩
  else if applicationKey ≠ "NoTraslation".toList then
    return ⟨isConfigurationField,isFilterField,isExportField,applicationKey⟩
  else configurationFailed "Field bad configured"

/-- A field that is there keeps its definition. The keys differ, so that the place of a new one
does not matter. -/
def PolicyFieldMapping.setField (mapping : PolicyFieldMapping) (key : IpfixFieldKey) (field : ApplicationFieldMapping) :
    PolicyFieldMapping :=
  if mapping.any fun entry => entry.1 = key then mapping else mapping ++ [(key,field)]

namespace PolicyActionMapping

/-- A mapping for `netmate` in whatever case, or a null pointer. -/
def make (app : Text) : Option PolicyActionMapping :=
  if app.map Char.toUpper = "NETMATE".toList then some {meteringApplication := []} else none

/-- The elements with a text for one of the values. -/
def setValue (level : Int) (reader : XmlReader) (mapping : PolicyActionMapping) (config : Text → MeteringConfig) :
    Call (XmlReader × PolicyActionMapping × MeteringConfig) := do
  let (text,reader) ← processTextNode (level + 1) reader
  return (reader,mapping,config text)

/-- One element. Of the interval of the reports the text is read only. -/
def processNode (level : Int) (reader : XmlReader) (mapping : PolicyActionMapping) (meterConf : MeteringConfig) :
    Call (XmlReader × PolicyActionMapping × MeteringConfig) := do
  match reader.name with
  | none => configurationFailed "Error parsing the export configuration"
  | some name =>
    if name = "FIELD".toList then
      let eno ← processAttribute reader "ENO".toList
      let fieldType ← processAttribute reader "FIELDTYPE".toList
      let _ ← processAttribute reader "NAME".toList
      let (fieldMap,reader) ← processTextNode (level + 1) reader
      let field ← ApplicationFieldMapping.new "false".toList "false".toList "true".toList fieldMap
      return (reader,{mapping with fields := mapping.fields.setField ⟨Text.atoi eno,Text.atoi fieldType⟩ field},meterConf)
    else if name = "PRIORITY_APP".toList then
      setValue level reader mapping fun text => {meterConf with priority := Text.atoi text}
    else if name = "METERING_PROCEDURE".toList then
      setValue level reader mapping fun text => {meterConf with meteringProcedure := text}
    else if name = "EXPORT_PROCEDURE".toList then
      setValue level reader mapping fun text => {meterConf with exportProcedure := text}
    else if name = "DIRECTORY".toList then
      setValue level reader mapping fun text => {meterConf with exportDirectory := text}
    else if name = "INTERVAL".toList then setValue level reader mapping fun _ => meterConf
    else return (reader,mapping,meterConf)

structure Loop where
  ret : Int
  reader : XmlReader
  mapping : PolicyActionMapping
  meterConfiguration : MeteringConfig

/-- The mapping gets its configuration where the loop comes to a node above its level. The loop runs
to the end of the function when there are no nodes any more. -/
def round (level : Int) (s : Loop) : Call (Loop ⊕ XmlReader × PolicyActionMapping) := do
  if s.ret = 1 then
    if s.reader.depth ≥ level ∧ s.reader.nodeType = xmlReaderTypeElement then
      let (reader,mapping,meterConfiguration) ← processNode level s.reader s.mapping s.meterConfiguration
      let (ret,reader) := reader.read
      return .inl ⟨ret,reader,mapping,meterConfiguration⟩
    else if s.reader.depth < level then
      return .inr (s.reader,{s.mapping with meterConfig := some s.meterConfiguration})
    else
      let (ret,reader) := s.reader.read
      return .inl {s with ret := ret, reader := reader}
  else Call.fault .noReturnValue

def start (mapping : PolicyActionMapping) (app : Text) (reader : XmlReader) : Loop :=
  ⟨reader.read.1,reader.read.2,{mapping with meteringApplication := app},{}⟩

def readFromXml (level : Int) (mapping : PolicyActionMapping) (reader : XmlReader) : Call (XmlReader × PolicyActionMapping) := do
  if reader.depth = level then
    let meteringApp ← processAttribute reader "ID".toList
    runLoop (round (level + 1)) (fun s => bound s.ret s.reader) (start mapping meteringApp reader)
  else configurationFailed "Configuration file does not parse"

end PolicyActionMapping

namespace PolicyAction

def actionStr : Text := "POLICY_ACTION_APP".toList

def priorityStr : Text := "PRIORITY".toList

def setActionMapping (action : PolicyAction) (app : Text) (mapping : PolicyActionMapping) : PolicyAction :=
  {action with actionMappings := action.actionMappings.insert app mapping}

structure Loop where
  ret : Int
  reader : XmlReader
  action : PolicyAction

/-- The current node is an element of the given depth. -/
def AtElement (level : Int) (reader : XmlReader) : Prop := reader.depth = level ∧ reader.nodeType = xmlReaderTypeElement

instance (level : Int) (reader : XmlReader) : Decidable (AtElement level reader) := inferInstanceAs (Decidable (_ ∧ _))

/-- An element with another name is not passed over, and this loop runs to the end of its function, too. -/
def round (s : Loop) : Call (Loop ⊕ Int × XmlReader × PolicyAction) := do
  if s.ret = 1 then
    if AtElement 2 s.reader then
      if s.reader.name = some actionStr then
        let meteringApplication ← processAttribute s.reader "ID".toList
        match PolicyActionMapping.make meteringApplication with
        | none => Call.fault .nullDereference
        | some mapping =>
          let (reader,mapping) ← mapping.readFromXml 2 s.reader
          return .inl {s with reader := reader, action := s.action.setActionMapping mapping.meteringApplication mapping}
      else if s.reader.name = some priorityStr then
        let (text,reader) ← processTextNode 3 s.reader
        return .inl {s with reader := reader, action := {s.action with priority := Text.atoi text}}
      else return .inl s
    else if s.reader.depth < 2 then return .inr (s.ret,s.reader,s.action)
    else
      let (ret,reader) := s.reader.read
      return .inl {s with ret := ret, reader := reader}
  else Call.fault .noReturnValue

def start (action : PolicyAction) (name : Text) (reader : XmlReader) : Loop :=
  ⟨reader.read.1,reader.read.2,{action with action := name}⟩

def readFromXml (action : PolicyAction) (reader : XmlReader) : Call (Int × XmlReader × PolicyAction) := do
  if reader.depth = 1 then
    let name ← processAttribute reader "ID".toList
    runLoop round (fun s => bound s.ret s.reader) (start action name reader)
  else configurationFailed "Export configuration file does not parse"

/-- `operator=`, which keeps the mappings for other applications. -/
def assign (action rhs : PolicyAction) : PolicyAction :=
  rhs.actionMappings.toList.foldl (fun action entry => action.setActionMapping entry.1 entry.2)
    {action with action := rhs.action, priority := rhs.priority}

end PolicyAction

namespace PolicyActionContainer

/-- A new action has no mappings, and whatever its priority happens to be. -/
def newAction (priority : Int) : PolicyAction := ⟨[],priority,∅⟩

def setPolicyAction (container : PolicyActionContainer) (key : Text) (action : PolicyAction) : PolicyActionContainer :=
  container.insert key ((container[key]?.getD (newAction 0)).assign action)

structure Loop where
  ret : Int
  reader : XmlReader
  container : PolicyActionContainer

/-- One round, or what follows the loop. `uninitialized` is the priority that the new action of
a round has. -/
def round (uninitialized : XmlReader → Int) (s : Loop) : Call (Loop ⊕ PolicyActionContainer) := do
  if s.ret = 1 then
    if PolicyAction.AtElement 1 s.reader then
      let (ret,reader,action) ← (newAction (uninitialized s.reader)).readFromXml s.reader
      return .inl ⟨ret,reader,s.container.setPolicyAction action.action action⟩
    else
      let (ret,reader) := s.reader.read
      return .inl {s with ret := ret, reader := reader}
  else if s.reader.isValid ≠ 1 then configurationFailed "Export configuration file does not validate"
  else if s.ret ≠ 0 then configurationFailed "Export configuration file does not parse"
  else return .inr s.container

def start (container : PolicyActionContainer) (reader : XmlReader) : Loop := ⟨reader.read.1,reader.read.2,container⟩

def readFromXml (uninitialized : XmlReader → Int) (container : PolicyActionContainer) (reader : XmlReader) :
    Call PolicyActionContainer :=
  runLoop (round uninitialized) (fun s => bound s.ret s.reader) (start container reader)

end PolicyActionContainer
section Rounds
variable {σ ρ : Type} {round : σ → Call (σ ⊕ ρ)} {bound : σ → Nat} {Loops : σ → Prop} {s final : σ}

theorem rounds_eq_next {next : σ} : rounds round s = .inl next ↔ round s = .ok (.inl next) := by
  unfold rounds
  rcases round s with stop | (next | result) <;> simp

/-- A result of the loop comes from a round that returns or stops. -/
theorem rounds_eq_result {result : Call ρ} : rounds round s = .inr result ↔
    (∃ a, round s = .ok (.inr a) ∧ result = .ok a) ∨ ∃ stop, round s = .error stop ∧ result = .error stop := by
  unfold rounds
  rcases round s with stop | (next | value) <;> simp [eq_comm]

/-- Where the bound falls in every round that is not in a loop, the loop ends with its last round. -/
theorem runLoop_last (progress : ∀ s next, round s = .ok (.inl next) → bound next < bound s ∨ Loops s)
    (free : ∀ loop, Machine.Reaches (rounds round) s loop → ¬ Loops loop) :
    ∃ final, Machine.Reaches (rounds round) s final ∧ rounds round final = .inr (runLoop round bound s) := by
  obtain ⟨result,ended⟩ := Machine.run_of_measure (fun _ => True) Loops bound
    (fun s next _ first => ⟨trivial,progress s next (rounds_eq_next.mp first)⟩) trivial free
  obtain ⟨final,reaches,last⟩ := Machine.reaches_of_run ended
  refine ⟨final,reaches,?_⟩
  rw [last,runLoop,ended]
  rfl

theorem runLoop_endless (stays : ∀ s, Loops s → ∃ next, round s = .ok (.inl next) ∧ Loops next)
    (reaches : Machine.Reaches (rounds round) s final) (inside : Loops final) : runLoop round bound s = .error .endless := by
  have never := Machine.not_terminates Loops (fun s loops => (stays s loops).imp fun _ both =>
    ⟨rounds_eq_next.mpr both.1,both.2⟩) reaches inside
  unfold runLoop
  cases ran : Machine.run (rounds round) (bound s + 1) s with
  | none => rfl
  | some result => exact absurd ⟨_,result,ran⟩ never

/-- A round that stops ends the loop, unless the loop goes on too long. -/
theorem runLoop_stops (bound : σ → Nat) (reaches : Machine.Reaches (rounds round) s final) {stop : Stop} (stopped : round final = .error stop) :
    runLoop round bound s = .error stop ∨ runLoop round bound s = .error .endless := by
  obtain ⟨fuel,ended⟩ := reaches.run (rounds_eq_result.mpr (.inr ⟨stop,stopped,rfl⟩))
  unfold runLoop
  cases ran : Machine.run (rounds round) (bound s + 1) s with
  | none => exact .inr rfl
  | some result =>
    cases Machine.run_unique ran ended
    exact .inl rfl

theorem runLoop_finishes (progress : ∀ s next, round s = .ok (.inl next) → bound next < bound s ∨ Loops s)
    (free : ∀ loop, Machine.Reaches (rounds round) s loop → ¬ Loops loop)
    (each : ∀ last, Machine.Reaches (rounds round) s last → (round last).Finishes) : (runLoop round bound s).Finishes := by
  obtain ⟨final,reaches,last⟩ := runLoop_last progress free
  rcases rounds_eq_result.mp last with ⟨a,_,same⟩ | ⟨stop,stopped,same⟩
  · rw [same]
    exact Call.finishes_ok a
  · obtain ⟨exception,rfl⟩ := each final reaches stop stopped
    rw [same]
    exact Call.finishes_throw exception

theorem runLoop_eq_ok {a : ρ} (ended : runLoop round bound s = .ok a) :
    ∃ final, Machine.Reaches (rounds round) s final ∧ round final = .ok (.inr a) := by
  unfold runLoop at ended
  cases ran : Machine.run (rounds round) (bound s + 1) s with
  | none =>
    rw [ran] at ended
    cases ended
  | some result =>
    rw [ran] at ended
    obtain ⟨final,reaches,last⟩ := Machine.reaches_of_run ran
    rcases rounds_eq_result.mp last with ⟨b,returned,same⟩ | ⟨stop,_,same⟩
    · cases same.symm.trans ended
      exact ⟨final,reaches,returned⟩
    · cases same.symm.trans ended

/-- A loop finishes where it comes to no state that it does not leave, or leaves by another way
than to return or throw. -/
theorem runLoop_finishes_iff {Stuck : σ → Prop} (progress : ∀ s next, round s = .ok (.inl next) → bound next < bound s ∨ Loops s)
    (stays : ∀ s, Loops s → ∃ next, round s = .ok (.inl next) ∧ Loops next) (loops : ∀ s, Loops s → Stuck s)
    (free : ∀ s, ¬ Stuck s → (round s).Finishes) (stuck : ∀ s, Stuck s → Loops s ∨ ¬ (round s).Finishes) :
    (runLoop round bound s).Finishes ↔ ∀ last, Machine.Reaches (rounds round) s last → ¬ Stuck last := by
  constructor
  · intro finishes last reaches inside
    rcases stuck last inside with endless | stops
    · rw [runLoop_endless stays reaches endless] at finishes
      exact Call.not_finishes_endless finishes
    · cases ended : round last with
      | ok next => exact stops (ended ▸ Call.finishes_ok next)
      | error stop =>
        rcases runLoop_stops bound reaches ended with same | same
        · rw [same] at finishes
          obtain ⟨exception,rfl⟩ := finishes stop rfl
          exact stops (ended ▸ Call.finishes_throw exception)
        · rw [same] at finishes
          exact Call.not_finishes_endless finishes
  · intro never
    exact runLoop_finishes progress (fun loop reaches inside => never loop reaches (loops loop inside))
      fun last reaches => free last (never last reaches)

theorem runLoop_of_error {stop : Stop} (stopped : round s = .error stop) : runLoop round bound s = .error stop := by
  unfold runLoop
  rw [Machine.run_result (rounds_eq_result.mpr (.inr ⟨stop,stopped,rfl⟩))]
  rfl

end Rounds

section Reader
variable {reader next : XmlReader}

@[simp] theorem positions_read (reader : XmlReader) : reader.read.2.positions = reader.positions.tail := rfl

theorem read_eq_one : reader.read.1 = 1 ↔ reader.positions.tail ≠ [] := by
  unfold XmlReader.read
  split
  · simp [*]
  · cases reader.broken <;> simp [*]

/-- A read takes a position, or there are no more rounds. -/
theorem bound_read (reader : XmlReader) : bound reader.read.1 reader.read.2 ≤ reader.positions.length := by
  unfold bound
  rw [positions_read,List.length_tail]
  by_cases more : reader.read.1 = 1
  · have some := List.length_pos_of_ne_nil (read_eq_one.mp more)
    rw [List.length_tail] at some
    rw [if_pos more]
    omega
  · rw [if_neg more]
    omega

theorem finishes_configurationFailed {α : Type} (text : String) : (configurationFailed text : Call α).Finishes :=
  Call.finishes_throw _

theorem processAttribute_eq_ok {attrName value : Text} :
    processAttribute reader attrName = .ok value ↔ reader.getAttribute attrName = some value := by
  unfold processAttribute
  cases reader.getAttribute attrName with
  | none => simp [configurationFailed,Call.throw]
  | some other => simp

theorem finishes_processAttribute (reader : XmlReader) (attrName : Text) : (processAttribute reader attrName).Finishes := by
  unfold processAttribute
  split
  · exact Call.finishes_ok _
  · exact finishes_configurationFailed _

theorem finishes_textLoop (level : Int) (positions : List (Option XmlNode)) (reader : XmlReader) :
    (textLoop level reader positions).Finishes := by
  induction positions generalizing reader with
  | nil => exact finishes_configurationFailed _
  | cons position rest ih =>
    rw [textLoop]
    split
    · exact Call.finishes_ok _
    · split
      · exact finishes_configurationFailed _
      · exact ih _

theorem textLoop_positions {level : Int} {positions : List (Option XmlNode)} {text : Text}
    (ended : textLoop level reader positions = .ok (text,next)) :
    0 < next.positions.length ∧ next.positions.length ≤ positions.length := by
  induction positions generalizing reader with
  | nil => cases ended
  | cons position rest ih =>
    rw [textLoop] at ended
    split at ended
    · cases ended
      exact ⟨Nat.succ_pos _,Nat.le_refl _⟩
    · split at ended
      · cases ended
      · obtain ⟨some,fewer⟩ := ih ended
        exact ⟨some,Nat.le_succ_of_le fewer⟩

theorem processTextNode_positions {level : Int} {text : Text} (ended : processTextNode level reader = .ok (text,next)) :
    next.positions.length < reader.positions.length := by
  obtain ⟨some,fewer⟩ := textLoop_positions ended
  rw [List.length_tail] at fewer
  omega

end Reader

theorem finishes_new (configuration filter exporting applicationKey : Text) :
    (ApplicationFieldMapping.new configuration filter exporting applicationKey).Finishes := by
  unfold ApplicationFieldMapping.new
  dsimp only
  split_ifs
  · exact Call.finishes_ok _
  · exact Call.finishes_ok _
  · exact finishes_configurationFailed _

namespace PolicyActionMapping
variable {level : Int} {reader next : XmlReader} {mapping final : PolicyActionMapping} {meterConf config : MeteringConfig}

theorem finishes_setValue (level : Int) (reader : XmlReader) (mapping : PolicyActionMapping) (config : Text → MeteringConfig) :
    (setValue level reader mapping config).Finishes := (finishes_textLoop _ _ _).bind fun _ _ => Call.finishes_ok _

theorem setValue_positions {value : Text → MeteringConfig} (ended : setValue level reader mapping value = .ok (next,final,config)) :
    next.positions.length ≤ reader.positions.length := by
  obtain ⟨⟨text,read⟩,found,ended⟩ := Call.bind_eq_ok.mp ended
  cases ended
  exact Nat.le_of_lt (processTextNode_positions found)

theorem finishes_processNode (level : Int) (reader : XmlReader) (mapping : PolicyActionMapping) (meterConf : MeteringConfig) :
    (processNode level reader mapping meterConf).Finishes := by
  unfold processNode
  split
  · exact finishes_configurationFailed _
  · split_ifs
    · refine (finishes_processAttribute _ _).bind fun eno _ => ?_
      refine (finishes_processAttribute _ _).bind fun fieldType _ => ?_
      refine (finishes_processAttribute _ _).bind fun _ _ => ?_
      exact (finishes_textLoop _ _ _).bind fun read _ => (finishes_new _ _ _ _).bind fun _ _ => Call.finishes_ok _
    · exact finishes_setValue _ _ _ _
    · exact finishes_setValue _ _ _ _
    · exact finishes_setValue _ _ _ _
    · exact finishes_setValue _ _ _ _
    · exact finishes_setValue _ _ _ _
    · exact Call.finishes_ok _

theorem processNode_positions (ended : processNode level reader mapping meterConf = .ok (next,final,config)) :
    next.positions.length ≤ reader.positions.length := by
  unfold processNode at ended
  split at ended
  · cases ended
  · split_ifs at ended
    · obtain ⟨eno,_,ended⟩ := Call.bind_eq_ok.mp ended
      obtain ⟨fieldType,_,ended⟩ := Call.bind_eq_ok.mp ended
      obtain ⟨_,_,ended⟩ := Call.bind_eq_ok.mp ended
      obtain ⟨⟨text,read⟩,found,ended⟩ := Call.bind_eq_ok.mp ended
      obtain ⟨field,_,ended⟩ := Call.bind_eq_ok.mp ended
      cases ended
      exact Nat.le_of_lt (processTextNode_positions found)
    · exact setValue_positions ended
    · exact setValue_positions ended
    · exact setValue_positions ended
    · exact setValue_positions ended
    · exact setValue_positions ended
    · cases ended
      exact Nat.le_refl _

/-- What a round of the loop can do: it reads on, or it returns. -/
theorem round_cases {s : Loop} {result : Loop ⊕ XmlReader × PolicyActionMapping} (ended : round level s = .ok result) :
    (s.ret = 1 ∧ ∃ (before : XmlReader) (mapping : PolicyActionMapping) (config : MeteringConfig),
      before.positions.length ≤ s.reader.positions.length ∧ result = .inl ⟨before.read.1,before.read.2,mapping,config⟩) ∨
    ∃ mapping, result = .inr (s.reader,mapping) := by
  unfold round at ended
  split_ifs at ended with more element above
  · obtain ⟨⟨before,mapping,config⟩,processed,ended⟩ := Call.bind_eq_ok.mp ended
    cases ended
    exact .inl ⟨more,before,mapping,config,processNode_positions processed,rfl⟩
  · cases ended
    exact .inr ⟨_,rfl⟩
  · cases ended
    exact .inl ⟨more,s.reader,s.mapping,s.meterConfiguration,Nat.le_refl _,rfl⟩
  · cases ended

theorem round_of_end {s : Loop} (ended : s.ret ≠ 1) : round level s = Call.fault .noReturnValue := by
  unfold round
  exact if_neg ended

theorem finishes_round_iff (level : Int) (s : Loop) : (round level s).Finishes ↔ s.ret = 1 := by
  by_cases more : s.ret = 1
  · refine iff_of_true ?_ more
    unfold round
    rw [if_pos more]
    split_ifs
    · exact (finishes_processNode _ _ _ _).bind fun _ _ => Call.finishes_ok _
    · exact Call.finishes_ok _
    · exact Call.finishes_ok _
  · rw [round_of_end more]
    exact iff_of_false (Call.not_finishes_fault _) more

theorem bound_round {s next : Loop} (first : round level s = .ok (.inl next)) :
    bound next.ret next.reader < bound s.ret s.reader := by
  rcases round_cases first with ⟨more,before,_,_,fewer,same⟩ | ⟨_,same⟩
  · cases same
    have falls := bound_read before
    rw [bound,bound,if_pos more]
    exact Nat.lt_succ_of_le (falls.trans fewer)
  · cases same

theorem readFromXml_eq (depth : reader.depth = level) {app : Text} (named : reader.getAttribute "ID".toList = some app) :
    readFromXml level mapping reader =
      runLoop (round (level + 1)) (fun s => bound s.ret s.reader) (start mapping app reader) := by
  unfold readFromXml
  rw [if_pos depth,processAttribute_eq_ok.mpr named,Call.ok_bind]

/-- Of a mapping nothing can go wrong but that it does not end before the document. -/
theorem finishes_readFromXml_iff (depth : reader.depth = level) {app : Text} (named : reader.getAttribute "ID".toList = some app) :
    (readFromXml level mapping reader).Finishes ↔
      ∀ last, Machine.Reaches (rounds (round (level + 1))) (start mapping app reader) last → last.ret = 1 := by
  rw [readFromXml_eq depth named]
  have only : (runLoop (round (level + 1)) (fun s => bound s.ret s.reader) (start mapping app reader)).Finishes ↔
      ∀ last, Machine.Reaches (rounds (round (level + 1))) (start mapping app reader) last → ¬ last.ret ≠ 1 :=
    runLoop_finishes_iff (fun _ _ first => .inl (bound_round first)) (fun _ never => never.elim) (fun _ => False.elim)
      (fun s more => (finishes_round_iff _ s).mpr (not_not.mp more)) fun s ended => .inr fun finishes =>
        ended ((finishes_round_iff _ s).mp finishes)
  exact only.trans (forall₂_congr fun _ _ => not_not)

/-- The loop never goes back, and the first thing the function does is a read. -/
theorem readFromXml_positions (ended : readFromXml level mapping reader = .ok (next,final)) :
    next.positions.length < reader.positions.length := by
  unfold readFromXml at ended
  split_ifs at ended
  · obtain ⟨app,_,ended⟩ := Call.bind_eq_ok.mp ended
    have more : reader.read.1 = 1 := by
      by_contra none
      rw [runLoop_of_error (round_of_end none)] at ended
      cases ended
    obtain ⟨last,reaches,returned⟩ := runLoop_eq_ok ended
    have kept : last.reader.positions.length ≤ reader.positions.tail.length := by
      refine reaches.invariant (fun s => s.reader.positions.length ≤ reader.positions.tail.length)
        (fun s next before first => ?_) (Nat.le_refl _)
      rcases round_cases (rounds_eq_next.mp first) with ⟨_,read,_,_,fewer,same⟩ | ⟨_,same⟩
      · cases same
        rw [positions_read,List.length_tail]
        omega
      · cases same
    have some := List.length_pos_of_ne_nil (read_eq_one.mp more)
    rw [List.length_tail] at kept some
    rcases round_cases returned with ⟨_,_,_,_,_,same⟩ | ⟨_,same⟩
    · cases same
    · cases same
      omega
  · cases ended

end PolicyActionMapping

namespace PolicyAction
variable {s next : Loop} {reader : XmlReader} {action : PolicyAction}

/-- An element with a name that is not known: the round reads nothing. -/
def Loops (s : Loop) : Prop :=
  s.ret = 1 ∧ AtElement 2 s.reader ∧ s.reader.name ≠ some actionStr ∧ s.reader.name ≠ some priorityStr

/-- The states from which the loop gets no further: an element that is not known, a mapping for
another application or one that does not end before the document, or no node any more. -/
inductive Stuck (s : Loop) : Prop
  | unknown (loops : Loops s)
  | otherApplication (app : Text) (more : s.ret = 1) (element : AtElement 2 s.reader) (action : s.reader.name = some actionStr)
      (named : s.reader.getAttribute "ID".toList = some app) (none : PolicyActionMapping.make app = none)
  | openMapping (app : Text) (mapping : PolicyActionMapping) (last : PolicyActionMapping.Loop) (more : s.ret = 1)
      (element : AtElement 2 s.reader) (action : s.reader.name = some actionStr)
      (named : s.reader.getAttribute "ID".toList = some app) (made : PolicyActionMapping.make app = some mapping)
      (reaches : Machine.Reaches (rounds (PolicyActionMapping.round 3)) (PolicyActionMapping.start mapping app s.reader) last)
      (ended : last.ret ≠ 1)
  | atEnd (ended : s.ret ≠ 1)

theorem stays (s : Loop) (loops : Loops s) : ∃ next, round s = .ok (.inl next) ∧ Loops next := by
  have ⟨more,element,action,priority⟩ := loops
  refine ⟨s,?_,loops⟩
  unfold round
  rw [if_pos more,if_pos element,if_neg action,if_neg priority]
  rfl

/-- What a round can do. -/
theorem round_cases {result : Loop ⊕ Int × XmlReader × PolicyAction} (ended : round s = .ok result) :
    (s.ret = 1 ∧ AtElement 2 s.reader ∧ s.reader.name = some actionStr ∧ ∃ app mapping read final,
      s.reader.getAttribute "ID".toList = some app ∧ PolicyActionMapping.make app = some mapping ∧
        mapping.readFromXml 2 s.reader = .ok (read,final) ∧
        result = .inl {s with reader := read, action := s.action.setActionMapping final.meteringApplication final}) ∨
    (∃ text read, processTextNode 3 s.reader = .ok (text,read) ∧
      result = .inl {s with reader := read, action := {s.action with priority := Text.atoi text}}) ∨
    (Loops s ∧ result = .inl s) ∨
    result = .inr (s.ret,s.reader,s.action) ∨
    (s.ret = 1 ∧ result = .inl {s with ret := s.reader.read.1, reader := s.reader.read.2}) := by
  unfold round at ended
  split_ifs at ended with more element action priority above
  · left
    obtain ⟨app,named,ended⟩ := Call.bind_eq_ok.mp ended
    cases made : PolicyActionMapping.make app with
    | none =>
      rw [made] at ended
      cases ended
    | some mapping =>
      rw [made] at ended
      obtain ⟨⟨read,final⟩,loaded,ended⟩ := Call.bind_eq_ok.mp ended
      cases ended
      exact ⟨more,element,action,app,mapping,read,final,processAttribute_eq_ok.mp named,made,loaded,rfl⟩
  · obtain ⟨⟨text,read⟩,found,ended⟩ := Call.bind_eq_ok.mp ended
    cases ended
    exact .inr (.inl ⟨text,read,found,rfl⟩)
  · cases ended
    exact .inr (.inr (.inl ⟨⟨more,element,action,priority⟩,rfl⟩))
  · cases ended
    exact .inr (.inr (.inr (.inl rfl)))
  · cases ended
    exact .inr (.inr (.inr (.inr ⟨more,rfl⟩)))
  · cases ended

/-- The positions never become more, and fewer or the rounds end, except where the loop stays. -/
theorem round_progress (s next : Loop) (first : round s = .ok (.inl next)) :
    next.reader.positions.length ≤ s.reader.positions.length ∧
      (bound next.ret next.reader < bound s.ret s.reader ∨ Loops s) := by
  rcases round_cases first with ⟨_,_,_,app,mapping,read,final,_,_,loaded,same⟩ | ⟨text,read,found,same⟩ | ⟨loops,same⟩ | same |
    ⟨more,same⟩
  · cases same
    have fewer := PolicyActionMapping.readFromXml_positions loaded
    exact ⟨Nat.le_of_lt fewer,.inl (Nat.add_lt_add_right fewer _)⟩
  · cases same
    have fewer := processTextNode_positions found
    exact ⟨Nat.le_of_lt fewer,.inl (Nat.add_lt_add_right fewer _)⟩
  · cases same
    exact ⟨Nat.le_refl _,.inr loops⟩
  · cases same
  · cases same
    refine ⟨by simp,.inl ?_⟩
    exact Nat.lt_of_le_of_lt (bound_read s.reader) (by simp [bound,more])

/-- The function returns with the reader where the last round found it. -/
theorem round_returns {s : Loop} {ret : Int} {read : XmlReader} {final : PolicyAction}
    (returned : round s = .ok (.inr (ret,read,final))) : read = s.reader := by
  rcases round_cases returned with ⟨_,_,_,_,_,_,_,_,_,_,same⟩ | ⟨_,_,_,same⟩ | ⟨_,same⟩ | same | ⟨_,same⟩
  · cases same
  · cases same
  · cases same
  · cases same
    rfl
  · cases same

theorem round_of_end (ended : s.ret ≠ 1) : round s = Call.fault .noReturnValue := by
  unfold round
  exact if_neg ended

theorem finishes_round (s : Loop) (free : ¬ Stuck s) : (round s).Finishes := by
  unfold round
  split_ifs with more element action priority above
  · refine (finishes_processAttribute _ _).bind fun app named => ?_
    have named := processAttribute_eq_ok.mp named
    cases made : PolicyActionMapping.make app with
    | none => exact absurd (.otherApplication app more element action named made) free
    | some mapping =>
      have loads := (PolicyActionMapping.finishes_readFromXml_iff element.1 named).mpr fun last reaches =>
        not_not.mp fun ended => free (.openMapping app mapping last more element action named made reaches ended)
      exact loads.bind fun _ _ => Call.finishes_ok _
  · exact (finishes_textLoop _ _ _).bind fun _ _ => Call.finishes_ok _
  · exact Call.finishes_ok _
  · exact Call.finishes_ok _
  · exact Call.finishes_ok _
  · exact absurd (.atEnd more) free

theorem Stuck.loops_or_not_finishes (stuck : Stuck s) : Loops s ∨ ¬ (round s).Finishes := by
  cases stuck with
  | unknown loops => exact .inl loops
  | otherApplication app more element action named none =>
    right
    unfold round
    rw [if_pos more,if_pos element,if_pos action,processAttribute_eq_ok.mpr named,Call.ok_bind,none]
    exact Call.not_finishes_fault _
  | openMapping app mapping last more element action named made reaches ended =>
    right
    intro finishes
    unfold round at finishes
    rw [if_pos more,if_pos element,if_pos action,processAttribute_eq_ok.mpr named,Call.ok_bind,made] at finishes
    exact ended ((PolicyActionMapping.finishes_readFromXml_iff element.1 named).mp finishes.of_bind last reaches)
  | atEnd ended =>
    rw [round_of_end ended]
    exact .inr (Call.not_finishes_fault _)

theorem runLoop_finishes_iff (s : Loop) : (runLoop round (fun s => bound s.ret s.reader) s).Finishes ↔
    ∀ last, Machine.Reaches (rounds round) s last → ¬ Stuck last := by
  exact Installer.runLoop_finishes_iff (fun s next first => (round_progress s next first).2) stays (fun _ => .unknown)
    finishes_round fun _ stuck => stuck.loops_or_not_finishes

end PolicyAction

namespace PolicyActionContainer
variable {uninitialized : XmlReader → Int} {s next : Loop}

/-- The loop over the mappings of an action that begins here gets stuck. -/
def Stuck (uninitialized : XmlReader → Int) (s : Loop) : Prop := s.ret = 1 ∧ PolicyAction.AtElement 1 s.reader ∧
  ∃ name last, s.reader.getAttribute "ID".toList = some name ∧
    Machine.Reaches (rounds PolicyAction.round) (PolicyAction.start (newAction (uninitialized s.reader)) name s.reader) last ∧
    PolicyAction.Stuck last

theorem readAction_eq {reader : XmlReader} {action : PolicyAction} (depth : reader.depth = 1) {name : Text}
    (named : reader.getAttribute "ID".toList = some name) : action.readFromXml reader =
      runLoop PolicyAction.round (fun s => bound s.ret s.reader) (PolicyAction.start action name reader) := by
  unfold PolicyAction.readFromXml
  rw [if_pos depth,processAttribute_eq_ok.mpr named,Call.ok_bind]

/-- An action takes at least the position it begins at. -/
theorem readAction_positions {reader read : XmlReader} {action final : PolicyAction} {ret : Int}
    (ended : action.readFromXml reader = .ok (ret,read,final)) : read.positions.length < reader.positions.length := by
  unfold PolicyAction.readFromXml at ended
  split_ifs at ended
  · obtain ⟨name,_,ended⟩ := Call.bind_eq_ok.mp ended
    have more : reader.read.1 = 1 := by
      by_contra none
      rw [runLoop_of_error (PolicyAction.round_of_end none)] at ended
      cases ended
    obtain ⟨last,reaches,returned⟩ := runLoop_eq_ok ended
    have kept := reaches.invariant (fun s => s.reader.positions.length ≤ reader.positions.tail.length)
      (fun s next before first => (PolicyAction.round_progress s next (rounds_eq_next.mp first)).1.trans before) (Nat.le_refl _)
    have some := List.length_pos_of_ne_nil (read_eq_one.mp more)
    rw [List.length_tail] at kept some
    rw [PolicyAction.round_returns returned]
    omega
  · cases ended

theorem bound_round (first : round uninitialized s = .ok (.inl next)) : bound next.ret next.reader < bound s.ret s.reader := by
  unfold round at first
  split_ifs at first with more element
  · obtain ⟨⟨ret,read,action⟩,loaded,first⟩ := Call.bind_eq_ok.mp first
    cases first
    have fewer := readAction_positions loaded
    unfold bound
    rw [if_pos more]
    dsimp only
    split_ifs <;> omega
  · cases first
    exact Nat.lt_of_le_of_lt (bound_read s.reader) (by simp [bound,more])
  all_goals cases first

theorem finishes_round (s : Loop) (free : ¬ Stuck uninitialized s) : (round uninitialized s).Finishes := by
  unfold round
  split_ifs with more element
  · have loads : ((newAction (uninitialized s.reader)).readFromXml s.reader).Finishes := by
      cases named : s.reader.getAttribute "ID".toList with
      | none =>
        unfold PolicyAction.readFromXml processAttribute
        rw [if_pos element.1,named]
        exact finishes_configurationFailed _
      | some name =>
        rw [readAction_eq element.1 named,PolicyAction.runLoop_finishes_iff]
        exact fun last reaches stuck => free ⟨more,element,name,last,named,reaches,stuck⟩
    exact loads.bind fun _ _ => Call.finishes_ok _
  · exact Call.finishes_ok _
  · exact finishes_configurationFailed _
  · exact finishes_configurationFailed _
  · exact Call.finishes_ok _

theorem not_finishes_of_stuck (s : Loop) (stuck : Stuck uninitialized s) : ¬ (round uninitialized s).Finishes := by
  obtain ⟨more,element,name,last,named,reaches,inside⟩ := stuck
  intro finishes
  unfold round at finishes
  rw [if_pos more,if_pos element] at finishes
  have loads := finishes.of_bind
  rw [readAction_eq element.1 named,PolicyAction.runLoop_finishes_iff] at loads
  exact loads last reaches inside

/-- Loading ends by returning or throwing exactly where no action gets stuck on its way. -/
theorem readFromXml_finishes_iff (uninitialized : XmlReader → Int) (container : PolicyActionContainer) (reader : XmlReader) :
    (container.readFromXml uninitialized reader).Finishes ↔
      ∀ s, Machine.Reaches (rounds (round uninitialized)) (start container reader) s → ¬ Stuck uninitialized s :=
  runLoop_finishes_iff (fun _ _ first => .inl (bound_round first)) (fun _ never => never.elim) (fun _ => False.elim) finishes_round
    fun s stuck => .inr (not_finishes_of_stuck s stuck)

/-- An action with an empty element that is not one of those it knows. -/
def unknownElement : List XmlNode := [
  {depth := 0, type := xmlReaderTypeElement, name := some "POLICY_ACTIONS".toList},
  {depth := 1, type := xmlReaderTypeElement, name := some "POLICY_ACTION".toList, attributes := [("ID".toList,"packets".toList)]},
  {depth := 2, type := xmlReaderTypeElement, name := some "DESCRIPTION".toList},
  {depth := 1, type := xmlReaderTypeEndElement, name := some "POLICY_ACTION".toList},
  {depth := 0, type := xmlReaderTypeEndElement, name := some "POLICY_ACTIONS".toList}]

theorem not_readFromXml_finishes : ¬ ∀ (uninitialized : XmlReader → Int) (container : PolicyActionContainer) (nodes : List XmlNode),
    (container.readFromXml uninitialized (.new nodes)).Finishes := by
  intro always
  have endless : (∅ : PolicyActionContainer).readFromXml (fun _ => 0) (.new unknownElement) = .error .endless := rfl
  exact Call.not_finishes_endless (endless ▸ always (fun _ => 0) ∅ unknownElement)

end PolicyActionContainer
end Mnslp.Installer
