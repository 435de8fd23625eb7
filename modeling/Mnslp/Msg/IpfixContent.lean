import Mnslp.Msg.ImportTermination
import Mnslp.Msg.TemplateRecord

/-! What an IPFIX message consists of, its bytes, and the first steps of the import over them. The import
gives the templates ids of its own, whatever ids their records bear. -/
namespace Mnslp.Msg
open Mnslp.Lib Call

namespace FieldSpecifier

def valueBytes (order : ByteOrder) (spec : FieldSpecifier) (value : Bytes) : Bytes :=
  if spec.length = ipfixFtVarlen then varlenPrefix order (UInt16.ofNat value.length) ++ value else value

def Allows (spec : FieldSpecifier) (value : Bytes) : Prop :=
  if spec.length = ipfixFtVarlen then value.length < 2^16 else value.length = spec.length.toNat

end FieldSpecifier

def setBytes (order : ByteOrder) (setid : UInt16) (body : Bytes) : Bytes :=
  Bytes.encode order 2 setid.toNat ++ Bytes.encode order 2 (4 + body.length) ++ body

/-- A set of template records, or of the records of a template. -/
inductive IpfixSet
  | templates (setid : UInt16) (records : List TemplateRecord) (padding : Nat)
  | data (templ : TemplateRecord) (records : List (List Bytes)) (padding : Nat)

namespace IpfixSet

def setid : IpfixSet → UInt16
  | templates setid _ _ => setid
  | data templ _ _ => templ.templid

def templateRecords : IpfixSet → List TemplateRecord
  | templates _ records _ => records
  | data _ _ _ => []

def dataRecords : IpfixSet → List (TemplateRecord × List Bytes)
  | templates _ _ _ => []
  | data templ records _ => records.map fun values => (templ,values)

def dataBytes (order : ByteOrder) (templ : TemplateRecord) (values : List Bytes) : Bytes :=
  (List.zipWith (FieldSpecifier.valueBytes order) templ.specifiers values).flatten

def templateBytes (order : ByteOrder) (records : List TemplateRecord) : Bytes :=
  records.flatMap (TemplateRecord.bytes order)

def body (order : ByteOrder) : IpfixSet → Bytes
  | templates _ records padding => templateBytes order records ++ List.replicate padding 0
  | data templ records padding => records.flatMap (dataBytes order templ) ++ List.replicate padding 0

def bytes (order : ByteOrder) (set : IpfixSet) : Bytes := setBytes order set.setid (set.body order)

/-- A set behind sets with the given template records. A data set belongs to the last of them
with its id, and its records take bytes. -/
def WellFormed (before : List TemplateRecord) : IpfixSet → Prop
  | templates setid records padding => (setid = 2 ∨ setid = 3) ∧ records ≠ [] ∧ padding < 4 ∧
      ∀ record ∈ records, record.setid = setid ∧ record.WellFormed ∧ 255 < record.templid
  | data templ records padding => before.reverse.find? (fun record => record.templid = templ.templid) = some templ ∧
      255 < templ.templid ∧ records ≠ [] ∧ padding < 4 ∧
      ∀ values ∈ records, List.Forall₂ FieldSpecifier.Allows templ.specifiers values ∧
        ∀ order, dataBytes order templ values ≠ []

end IpfixSet

/-- What an IPFIX message consists of. -/
structure IpfixContent where
  exporttime : UInt32
  seqno : UInt32
  sourceid : UInt32
  sets : List IpfixSet

namespace IpfixContent

def body (order : ByteOrder) (content : IpfixContent) : Bytes := content.sets.flatMap (IpfixSet.bytes order)

def bytes (order : ByteOrder) (content : IpfixContent) : Bytes :=
  Bytes.encode order 2 ipfixVersion.toNat ++ Bytes.encode order 2 (16 + (content.body order).length) ++
    Bytes.encode order 4 content.exporttime.toNat ++ Bytes.encode order 4 content.seqno.toNat ++
    Bytes.encode order 4 content.sourceid.toNat ++ content.body order

def templateRecords (content : IpfixContent) : List TemplateRecord := content.sets.flatMap IpfixSet.templateRecords

def dataRecords (content : IpfixContent) : List (TemplateRecord × List Bytes) :=
  content.sets.flatMap IpfixSet.dataRecords

structure WellFormed (content : IpfixContent) : Prop where
  short (order : ByteOrder) : (content.bytes order).length < 2^16
  sets (before after : List IpfixSet) (set : IpfixSet) (split : content.sets = before ++ set :: after) :
    set.WellFormed (before.flatMap IpfixSet.templateRecords)

end IpfixContent

namespace TemplateRecord

/-- The record whose template the import has under an id, of those it has read, the last one first. Each gets the
next id from 256 on, and takes away what stands under the id that it bears. -/
def held : List TemplateRecord → UInt16 → Option TemplateRecord
  | [], _ => none
  | record :: earlier, id =>
    if id.toNat = 256 + earlier.length then some record
    else if id = record.templid then none
    else held earlier id

theorem held_eq_none {id : UInt16} (records : List TemplateRecord) (high : 256 + records.length ≤ id.toNat) :
    held records id = none := by
  induction records with
  | nil => rfl
  | cons record earlier ih =>
    rw [List.length_cons] at high
    rw [held,if_neg (by omega)]
    split
    · rfl
    · exact ih (by omega)

section
variable {known : List TemplateRecord} {id : UInt16}

theorem held_concat (known : List TemplateRecord) (record : TemplateRecord) (id : UInt16) :
    held (known ++ [record]).reverse id = if id.toNat = 256 + known.length then some record
      else if id = record.templid then none else held known.reverse id := by
  rw [List.reverse_concat,held,List.length_reverse]

/-- A record that bears the id which the import gives it is held as long as it is the last one with this id. -/
theorem held_eq_some_iff {Own : TemplateRecord → Prop}
    (numbered : ∀ i record, known[i]? = some record → Own record → record.templid.toNat = 256 + i)
    {record : TemplateRecord} (own : Own record) : held known.reverse id = some record ↔
      known.reverse.find? (fun other => decide (other.templid = id)) = some record := by
  induction known using List.reverseRecOn with
  | nil => exact Iff.rfl
  | append_singleton known last ih =>
    have before (i : Nat) (other : TemplateRecord) (placed : known[i]? = some other) (mine : Own other) :
        other.templid.toNat = 256 + i := by
      refine numbered i other ?_ mine
      rw [List.getElem?_append_left (List.getElem?_eq_some_iff.mp placed).1]
      exact placed
    have newest (mine : Own last) : last.templid.toNat = 256 + known.length :=
      numbered known.length last List.getElem?_concat_length mine
    rw [held_concat,List.reverse_concat,List.find?_cons]
    by_cases next : id.toNat = 256 + known.length
    · rw [if_pos next]
      by_cases named : last.templid = id
      · rw [decide_eq_true named]
      · rw [decide_eq_false named]
        dsimp only
        constructor
        · intro same
          cases same
          exact absurd (UInt16.toNat_inj.mp ((newest own).trans next.symm)) named
        · intro found
          obtain ⟨i,inside,place⟩ := List.getElem_of_mem (List.mem_reverse.mp (List.mem_of_find?_eq_some found))
          have bears := List.find?_some found
          rw [decide_eq_true_eq] at bears
          have small := before i record (List.getElem?_eq_some_iff.mpr ⟨inside,place⟩) own
          rw [bears] at small
          omega
    · rw [if_neg next]
      by_cases named : id = last.templid
      · rw [if_pos named,decide_eq_true named.symm]
        refine iff_of_false (fun none => by cases none) fun same => ?_
        cases same
        exact next (named ▸ newest own)
      · rw [if_neg named,decide_eq_false (Ne.symm named)]
        exact ih before

/-- Where all records bear these ids, nothing is taken away. -/
theorem held_eq_find (numbered : ∀ i record, known[i]? = some record → record.templid.toNat = 256 + i) :
    held known.reverse id = known.find? fun record => decide (record.templid = id) := by
  induction known using List.reverseRecOn with
  | nil => rfl
  | append_singleton known last ih =>
    have before (i : Nat) (other : TemplateRecord) (placed : known[i]? = some other) : other.templid.toNat = 256 + i := by
      refine numbered i other ?_
      rw [List.getElem?_append_left (List.getElem?_eq_some_iff.mp placed).1]
      exact placed
    have newest : last.templid.toNat = 256 + known.length := numbered known.length last List.getElem?_concat_length
    rw [held_concat,List.find?_append,List.find?_singleton]
    by_cases next : id.toNat = 256 + known.length
    · have named : last.templid = id := UInt16.toNat_inj.mp (newest.trans next.symm)
      have absent : known.find? (fun record => decide (record.templid = id)) = none := by
        refine List.find?_eq_none.mpr fun record member bears => ?_
        obtain ⟨i,inside,place⟩ := List.getElem_of_mem member
        have small := before i record (List.getElem?_eq_some_iff.mpr ⟨inside,place⟩)
        rw [of_decide_eq_true bears] at small
        omega
      rw [if_pos next,absent,decide_eq_true named]
      rfl
    · have named : id ≠ last.templid := fun same => next (same ▸ newest)
      rw [if_neg next,if_neg named,decide_eq_false (Ne.symm named),ih before]
      exact (Option.or_none ..).symm

end
end TemplateRecord

section
variable {input : ImportInput} {m : MnslpIpfixMessage}

theorem import_of_reaches {s final : ImportState} {result : Call Imported} (started : importStart input m = .ok s)
    (reaches : Machine.Reaches (ImportState.machine input) s final)
    (last : ImportState.machine input final = .inr result) : mnslpIpfixImport input m = some result := by
  obtain ⟨fuel,ended⟩ := reaches.run last
  cases imported : mnslpIpfixImport input m with
  | none =>
    obtain ⟨other,same,endless⟩ := import_eq_none.mp imported
    rw [started] at same
    cases same
    exact absurd ⟨fuel,result,ended⟩ endless
  | some again =>
    unfold mnslpIpfixImport at imported
    rw [started] at imported
    exact congrArg some (Machine.run_unique imported ended)

namespace ImportState
variable {s : ImportState} {t : IpfixT} {order : ByteOrder} {setid : UInt16} {body : Bytes}

theorem length_setBytes (order : ByteOrder) (setid : UInt16) (body : Bytes) :
    (setBytes order setid body).length = 4 + body.length := by
  unfold setBytes
  rw [List.length_append,List.length_append,Bytes.length_encode,Bytes.length_encode]

/-- A set with something in it is read, not taken for the end. -/
theorem step_stands (short : input.messageLength < 2^16) (network : order = headerOrder s.m.encodeNetwork)
    (atSets : s.point = .sets) (live : s.m.message = .live t) (version : t.version = ipfixVersion)
    (stands : Bytes.Stands (setBytes order setid body) input.buffer s.nread) (some : body ≠ []) :
    s.step input = s.readSet input t (s.nread + 4) setid (UInt16.ofNat (4 + body.length)) ∧
      s.nread + 4 + body.length ≤ input.messageLength := by
  have long := List.length_pos_iff.mpr some
  have length := length_setBytes order setid body
  have covered := stands.within (List.ne_nil_of_length_pos (by omega))
  rw [length] at covered
  unfold setBytes at stands
  rw [Bytes.stands_append,Bytes.stands_append,Bytes.length_encode] at stands
  obtain ⟨⟨first,second⟩,_⟩ := stands
  unfold ImportInput.messageLength at short ⊢
  refine ⟨?_,by omega⟩
  unfold step openSet
  rw [atSets]
  dsimp only
  unfold ImportInput.messageLength
  rw [addInt,if_pos (by omega),ok_bind,MnslpIpfixMessage.liveMessage_eq_ok live,ok_bind,if_neg (by omega),
    if_neg (by rw [version]; exact fun nf9 => absurd nf9.1 (by decide)),← network,
    readU16_stands setid.toNat_lt first,ok_bind,readU16_stands (by omega) second,ok_bind,
    UInt16.ofNat_toNat]

theorem readSet_body (small : body.length < 2^16 - 4) (inside : s.nread + 4 + body.length ≤ input.messageLength) :
    s.readSet input t (s.nread + 4) setid (UInt16.ofNat (4 + body.length)) = (do
      let s := {s with setid := setid, setlen := UInt16.ofNat body.length, nread := s.nread + 4}
      if setid ≤ 3 then return .inl {s with point := .templates s.nread body.length}
      else if setid > 255 then
        let templ ← t.templates.getTemplate setid
        return .inl {s with point := .records templ s.nread body.length}
      else return .inl (← s.closeSet)) := by
  have whole : (UInt16.ofNat (4 + body.length)).toNat = 4 + body.length := UInt16.toNat_ofNat_of_lt' (show _ < 2^16 by omega)
  have left : (UInt16.ofNat body.length).toNat = body.length := UInt16.toNat_ofNat_of_lt' (show _ < 2^16 by omega)
  have header : (4 : UInt16) ≤ UInt16.ofNat (4 + body.length) := by
    rw [UInt16.le_iff_toNat_le,whole]
    exact Nat.le_add_right 4 _
  have rest : UInt16.ofNat (4 + body.length) - 4 = UInt16.ofNat body.length := by
    apply UInt16.toNat_inj.mp
    rw [UInt16.toNat_sub_of_le _ _ header,whole,left]
    exact Nat.add_sub_cancel_left 4 _
  unfold readSet
  rw [if_neg (UInt16.not_lt.mpr header)]
  dsimp only
  rw [rest,left,if_neg (by omega)]

end ImportState
end

namespace IpfixContent

theorem length_bytes (content : IpfixContent) (order : ByteOrder) :
    (content.bytes order).length = 16 + (content.body order).length := by
  unfold bytes
  simp only [List.length_append,Bytes.length_encode]

end IpfixContent
end Mnslp.Msg
