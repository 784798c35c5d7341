import Understudy.Operation
import Understudy.Proofs.Lasting

/-!
# What lasts under requests to plain values

Texts, numbers, dictionaries and the like answer requests without a word to anyone. That an answer
keeps what lasts is seen from the parts it is put together of; the rules for the parts do it.
Where an answer writes back a state that it has read, that state is kept in sight.

## Main statements

* `Lasts.general`: requests that any plain value answers.
* `Lasts.operate`: all requests to plain values.
-/

namespace Understudy.Lasts

section

variable {I : World → Prop}

@[grind .] theorem needPlace (v : Value) : Lasts I (needPlace v) := by
  unfold Understudy.needPlace
  grind

@[grind .] theorem needSmall (v : Value) : Lasts I (needSmall v) := by
  unfold Understudy.needSmall
  grind

@[grind .] theorem needTimes (size : Nat) (v : Value) : Lasts I (needTimes size v) := by
  unfold Understudy.needTimes
  grind

@[grind .] theorem needEnd (v : Value) : Lasts I (needEnd v) := by
  unfold Understudy.needEnd
  grind

@[grind .] theorem needBound (v : Value) : Lasts I (needBound v) := by
  unfold Understudy.needBound
  grind

/-! ## Texts -/

@[grind .] theorem newText (s : List Char) : Lasts I (newText s) := renew _

@[grind .] theorem newTexts (pieces : List (List Char)) : Lasts I (newTexts pieces) := by
  unfold Understudy.newTexts
  grind

@[grind .] theorem changed (owner : Value) (s : List Char) : Lasts I (changed owner s) := by
  unfold Understudy.changed
  grind

@[grind .] theorem needText (complaint : String) (v : Value) : Lasts I (needText complaint v) := by
  unfold Understudy.needText
  grind

@[grind .] theorem needArgumentText (complaint : String) (v : Value) :
    Lasts I (needArgumentText complaint v) := by
  unfold Understudy.needArgumentText
  grind

@[grind .] theorem searchRange (length : Nat) (args : List Value) :
    Lasts I (searchRange length args) := by
  unfold Understudy.searchRange
  grind

@[grind .] theorem findPart (s : List Char) (last : Bool) (args : List Value) :
    Lasts I (findPart s last args) := by
  unfold Understudy.findPart
  grind

@[grind .] theorem countPart (s : List Char) (args : List Value) : Lasts I (countPart s args) := by
  unfold Understudy.countPart
  grind

@[grind .] theorem meetsAmong (op : Operation) (test : List Char → Bool) (items : List Value) :
    Lasts I (meets.among op test items) := by
  induction items with
  | nil => exact pure false
  | cons v rest ih =>
    unfold meets.among
    grind

@[grind .] theorem meets (op : Operation) (fits : List Char → List Char → Bool) (s : List Char)
    (args : List Value) : Lasts I (meets op fits s args) := by
  unfold Understudy.meets
  grind

@[grind .] theorem joinedPieces (place : Nat) (items : List Value) :
    Lasts I (joinedPieces place items) := by
  induction items generalizing place with
  | nil => exact pure []
  | cons v rest ih =>
    unfold Understudy.joinedPieces
    grind

@[grind .] theorem needMost (v : Value) : Lasts I (needMost v) := by
  unfold Understudy.needMost
  grind

@[grind .] theorem threeParts (owner : Value) (s : List Char) (last : Bool) (v : Value) :
    Lasts I (threeParts owner s last v) := by
  unfold Understudy.threeParts
  grind

@[grind .] theorem padded (op : Operation) (owner : Value) (s : List Char) (args : List Value) :
    Lasts I (padded op owner s args) := by
  unfold Understudy.padded
  grind

@[grind .] theorem strippedSet (op : Operation) (args : List Value) :
    Lasts I (strippedSet op args) := by
  unfold Understudy.strippedSet
  grind

@[grind .] theorem needSwitch (v : Value) : Lasts I (needSwitch v) := by
  unfold Understudy.needSwitch
  grind

@[grind .] theorem encodeText (s : List Char) (encoding handling : Value) :
    Lasts I (encodeText s encoding handling) := by
  unfold Understudy.encodeText
  grind

@[grind .] theorem joinText (owner other : Value) : Lasts I (joinText owner other) := by
  unfold Understudy.joinText
  grind

@[grind .] theorem splitText (s : List Char) (backwards : Bool) (separator most : Value) :
    Lasts I (splitText s backwards separator most) := by
  unfold Understudy.splitText
  grind

@[grind .] theorem operateTextKnown (found : Option Nat) : Lasts I (operateText.known found) := by
  unfold operateText.known
  grind

@[grind .] theorem operateText (owner : Value) (op : Operation) (args : List Value) :
    Lasts I (operateText owner op args) := by
  unfold Understudy.operateText
  grind

/-! ## Dictionaries, sets and times -/

@[grind .] theorem overwrite (d : DictRef) (others : List (Value × Value)) :
    Lasts I (overwrite d others) := modify _ fun _ h => h.withPairs d _

@[grind .] theorem overwriteItems (d : DictRef) (place : Nat) (items : List Value) :
    Lasts I (overwriteItems d place items) := by
  induction items generalizing place with
  | nil => exact pure ()
  | cons v rest ih =>
    unfold Understudy.overwriteItems
    grind

@[grind .] theorem overwriteWith (d : DictRef) (other : Value) :
    Lasts I (overwriteWith d other) := by
  unfold Understudy.overwriteWith
  grind

@[grind .] theorem dictOfKeys (keys : List Value) (v : Value) : Lasts I (dictOfKeys keys v) := by
  unfold Understudy.dictOfKeys
  grind

theorem uniteDict {pairs : Dict} {side : Side} {other : Option Dict} {union : Action Value}
    (h : Understudy.uniteDict pairs side other = some union) : Lasts I union := by
  obtain ⟨_, -, rfl⟩ := Option.map_eq_some_iff.1 h
  exact newDict _

@[grind .] theorem getD_uniteDict (pairs : Dict) (side : Side) (other : Option Dict)
    (v : Value) : Lasts I ((Understudy.uniteDict pairs side other).getD (Pure.pure v)) := by
  cases h : Understudy.uniteDict pairs side other with
  | some union => exact uniteDict h
  | none => exact pure v

@[grind .] theorem readDict (owner : Value) (op : Operation) (args : List Value) :
    Lasts I (readDict owner op args) := by
  unfold Understudy.readDict
  grind [uniteDict]

@[grind .] theorem operateDict (d : DictRef) (op : Operation) (args : List Value)
    (named : List (String × Value)) : Lasts I (operateDict d op args named) := by
  unfold Understudy.operateDict
  refine get_bind fun w hw => ?_
  dsimp only
  split
  all_goals grind [uniteDict]

@[grind .] theorem members (v : Value) : Lasts I (members v) := by
  unfold Understudy.members
  grind

@[grind .] theorem operateSet (owner : Value) (items : List Value) (op : Operation)
    (args : List Value) : Lasts I (operateSet owner items op args) := by
  unfold Understudy.operateSet
  grind

@[grind .] theorem operateAspect (owner : Value) (items : List Value) (op : Operation)
    (args : List Value) : Lasts I (operateAspect owner items op args) := by
  unfold Understudy.operateAspect
  grind

@[grind .] theorem needNumbers (items : List Value) : Lasts I (needNumbers items) := by
  induction items with
  | nil => exact pure []
  | cons v rest ih =>
    unfold Understudy.needNumbers
    grind

@[grind .] theorem replaceParts (parts : List Value) (zone fold : Value) :
    Lasts I (replaceParts parts zone fold) := by
  unfold Understudy.replaceParts
  grind

@[grind .] theorem isoText (m : Moment) (separator part : Value) :
    Lasts I (isoText m separator part) := by
  unfold Understudy.isoText
  refine get.bind fun w => ?_
  cases separator.text? with
  | none => exact throw _
  | some mark =>
    dsimp only
    split
    · exact (throw _).bind fun _ => by grind
    · grind

@[grind .] theorem operateMoment (m : Moment) (op : Operation) (args : List Value) :
    Lasts I (operateMoment m op args) := by
  unfold Understudy.operateMoment
  grind

/-! ## Numbers -/

@[grind .] theorem roundNumber (owner : Value) (places : List Value) :
    Lasts I (roundNumber owner places) := by
  unfold Understudy.roundNumber
  grind

@[grind .] theorem answerNumber (owner : Value) (op : Operation) (args : List Value) :
    Lasts I (answerNumber owner op args) := by
  unfold Understudy.answerNumber
  grind

@[grind .] theorem operateNumber (owner : Value) (op : Operation) (args : List Value) :
    Lasts I (operateNumber owner op args) := by
  unfold Understudy.operateNumber
  grind

/-! ## Any plain value -/

@[grind ←] theorem indexAmong (items : List Value) {missing : Action String}
    (h : Lasts I missing) (args : List Value) : Lasts I (indexAmong items missing args) := by
  unfold Understudy.indexAmong
  grind

@[grind .] theorem formatted (owner format : Value) : Lasts I (formatted owner format) := by
  unfold Understudy.formatted
  grind

@[grind .] theorem iterator (owner : Value) (backwards : Bool) :
    Lasts I (iterator owner backwards) := by
  unfold Understudy.iterator
  grind

theorem general {owner : Value} {op : Operation} {args : List Value} {answer : Action Value}
    (h : general? owner op args = some answer) : Lasts I answer := by
  unfold Understudy.general? at h
  split at h
  all_goals grind [Option.map_eq_some_iff]

end

section

variable {I : World → Prop} {call : Caller} (hcall : ∀ v args, Lasts I (call v args))
include hcall

@[grind .] theorem sortKeys (key : Value) (items : List Value) :
    Lasts I (sortKeys call key items) := by
  unfold Understudy.sortKeys
  grind

@[grind .] theorem sortList (l : ListRef) (key reversed : Value) :
    Lasts I (sortList call l key reversed) := by
  unfold Understudy.sortList
  refine get.bind fun w => (needSmall reversed).bind fun _ =>
    (sortKeys hcall key _).bind fun keys => get_bind fun w hw => ?_
  grind

@[grind .] theorem operateList (l : ListRef) (op : Operation) (args : List Value) :
    Lasts I (operateList call l op args) := by
  unfold Understudy.operateList
  refine get_bind fun w hw => ?_
  dsimp only
  split
  all_goals grind

omit hcall in
@[grind .] theorem operateTuple (owner : Value) (items : List Value) (op : Operation)
    (args : List Value) : Lasts I (operateTuple owner items op args) := by
  unfold Understudy.operateTuple
  grind

@[grind .] theorem operateOn (owner : Value) (op : Operation) (args : List Value)
    (named : List (String × Value)) : Lasts I (operateOn call owner op args named) := by
  unfold Understudy.operateOn
  grind [general]

@[grind .] theorem operate (owner : Value) (op : Operation) (args : List Value)
    (named : List (String × Value)) : Lasts I (operate call owner op args named) := by
  unfold Understudy.operate
  grind

end

end Understudy.Lasts
