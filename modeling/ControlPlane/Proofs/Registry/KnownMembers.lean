import ControlPlane.Proofs.Json.ObjectTexts
import ControlPlane.Proofs.Records.WrittenLocks
import ControlPlane.Records.Node
import ControlPlane.Registry.Plans

/-!
# Records that known members decide

A lock and a node are read from texts of objects with any members.  What the known members
say is what the record holds, in whatever order they come and whatever stands between them,
and a field that no member names has its default.  The owner of a node is no field: no
document says who owns it.
-/

namespace ControlPlane

open Json

/-! ## Locks -/

namespace Lock

/-- What the members of an object say of a lock. -/
structure ToldBy (lock : Lock) (members : List ObjectMember) : Prop where
  id : Told (members.map ObjectMember.entry) "ID" .text "" lock.id
  operation : Told (members.map ObjectMember.entry) "Operation" .text "" lock.operation
  info : Told (members.map ObjectMember.entry) "Info" .text "" lock.info
  who : Told (members.map ObjectMember.entry) "Who" .text "" lock.who
  version : Told (members.map ObjectMember.entry) "Version" .text "" lock.version
  created : Told (members.map ObjectMember.entry) "Created" .optionalDate none lock.created
  path : Told (members.map ObjectMember.entry) "Path" .text "" lock.path

theorem isPart_fields :
    shape.IsPart "ID" .text Lock.id ∧ shape.IsPart "Operation" .text Lock.operation ∧
      shape.IsPart "Info" .text Lock.info ∧ shape.IsPart "Who" .text Lock.who ∧
      shape.IsPart "Version" .text Lock.version ∧
      shape.IsPart "Created" .optionalDate Lock.created ∧ shape.IsPart "Path" .text Lock.path := by
  refine ⟨⟨⟨_, _, rfl, fun _ _ => rfl⟩, ?_⟩, ⟨⟨_, _, rfl, fun _ _ => rfl⟩, ?_⟩,
    ⟨⟨_, _, rfl, fun _ _ => rfl⟩, ?_⟩, ⟨⟨_, _, rfl, fun _ _ => rfl⟩, ?_⟩,
    ⟨⟨_, _, rfl, fun _ _ => rfl⟩, ?_⟩, ⟨⟨_, _, rfl, fun _ _ => rfl⟩, ?_⟩,
    ⟨⟨_, _, rfl, fun _ _ => rfl⟩, ?_⟩⟩ <;>
  simp [shape]

theorem commutes : shape.Commutes := by
  simp [Shape.Commutes, shape]

/-- The known members give a lock what all members say of it. -/
theorem toldBy_of_sets {lock : Lock} {members : List ObjectMember}
    (distinct : ((shape.known members).map Prod.fst).Nodup)
    (sets : shape.Sets blank (shape.known members) lock) : lock.ToldBy members := by
  rcases isPart_fields with ⟨id, operation, info, who, version, created, path⟩
  exact ⟨id.told_of_sets distinct sets, operation.told_of_sets distinct sets,
    info.told_of_sets distinct sets, who.told_of_sets distinct sets,
    version.told_of_sets distinct sets, created.told_of_sets distinct sets,
    path.told_of_sets distinct sets⟩

end Lock

/-! ## Nodes -/

namespace Node

/-- What the members of an object say of a node.  Nothing is said of its owner. -/
structure ToldBy (node : Node) (members : List ObjectMember) : Prop where
  name : Told (members.map ObjectMember.entry) "name" .text "" node.name
  roles : Told (members.map ObjectMember.entry) "role" .texts [] node.roles
  machineId : Told (members.map ObjectMember.entry) "machineid" .integer unsetMachineId
    node.machineId
  systemId : Told (members.map ObjectMember.entry) "systemid" .text "" node.systemId

theorem isPart_fields :
    shape.IsPart "name" .text Node.name ∧ shape.IsPart "role" .texts Node.roles ∧
      shape.IsPart "machineid" .integer Node.machineId ∧
      shape.IsPart "systemid" .text Node.systemId := by
  refine ⟨⟨⟨_, _, rfl, fun _ _ => rfl⟩, ?_⟩, ⟨⟨_, _, rfl, fun _ _ => rfl⟩, ?_⟩,
    ⟨⟨_, _, rfl, fun _ _ => rfl⟩, ?_⟩, ⟨⟨_, _, rfl, fun _ _ => rfl⟩, ?_⟩⟩ <;>
  simp [shape]

theorem commutes : shape.Commutes := by
  simp [Shape.Commutes, shape]

/-- No member has to be there. -/
theorem optional : ∀ field ∈ shape.fields, field.required = false := by
  simp [shape]

/-- The known members give a node what all members say of it. -/
theorem toldBy_of_sets {node : Node} {members : List ObjectMember}
    (distinct : ((shape.known members).map Prod.fst).Nodup)
    (sets : shape.Sets shape.blank (shape.known members) node) : node.ToldBy members := by
  rcases isPart_fields with ⟨name, roles, machineId, systemId⟩
  exact ⟨name.told_of_sets distinct sets, roles.told_of_sets distinct sets,
    machineId.told_of_sets distinct sets, systemId.told_of_sets distinct sets⟩

/-- No document says who owns a node. -/
theorem member_of_decode {document : Bytes} {node : Node}
    (decoded : decode document = .ok node) : node.member = "" := by
  have kept : ∀ field ∈ shape.fields, Shape.KeptBy (fun node : Node => node.member = "") field := by
    intro field isField record value tokens rest before _
    simp only [shape, List.mem_cons, List.not_mem_nil, or_false] at isField
    rcases isField with rfl | rfl | rfl | rfl <;> exact before
  exact Shape.decode_induction kept rfl decoded

end Node

/-! ## Both records -/

/-- Take the members of an object, of which the known ones hold values of their kinds and
no two have one name.  There is a lock that has what they say and its defaults elsewhere,
and every text of an object with the same known members is read as this lock: they may come
in any order, with their names spelled in any way, and stand among any other members.  The
same holds of nodes, and no document whatsoever says who owns a node. -/
theorem known_members_decide :
    (∀ members : List ObjectMember, Lock.shape.Admits (Lock.shape.known members) →
      ∃ lock : Lock, lock.ToldBy members ∧
        ∀ object : ObjectText, (Lock.shape.known object.members).Perm (Lock.shape.known members) →
          Plans.decodeLock (Utf8.encode object.text) = .ok lock) ∧
    (∀ members : List ObjectMember, Node.shape.Admits (Node.shape.known members) →
      ∃ node : Node, node.ToldBy members ∧
        ∀ object : ObjectText, (Node.shape.known object.members).Perm (Node.shape.known members) →
          Node.decode (Utf8.encode object.text) = .ok node) ∧
    ∀ (document : Bytes) (node : Node), Node.decode document = .ok node → node.member = "" := by
  refine ⟨fun members admitted => ?_, fun members admitted => ?_,
    fun document node => Node.member_of_decode⟩
  · rcases Shape.exists_decode Lock.optional Lock.commutes admitted with ⟨lock, sets, decode⟩
    refine ⟨lock, Lock.toldBy_of_sets admitted.distinct sets, fun object moved => ?_⟩
    rw [Plans.decodeLock, Lock.decode, decode object moved]
    rfl
  · rcases Shape.exists_decode Node.optional Node.commutes admitted with ⟨node, sets, decode⟩
    exact ⟨node, Node.toldBy_of_sets admitted.distinct sets, decode⟩

/-! ### An escaped name among unknown members -/

theorem isSpacing_nil : IsSpacing [] := by decide

/-- A member without white space. -/
def tightMember (name : String) {body core : List Char} (named : Spells body name.toList)
    (value : IsValue core) : ObjectMember where
  name := name
  text := ⟨⟨[], quoted body, []⟩, ⟨[], core, []⟩⟩
  padded := ⟨⟨isSpacing_nil, isSpacing_nil⟩, ⟨isSpacing_nil, isSpacing_nil⟩⟩
  named := ⟨body, rfl, named⟩
  value := value

/-- An object without white space around its members. -/
def tightObject (members : List ObjectMember) : ObjectText :=
  ⟨[], [], [], members, isSpacing_nil, isSpacing_nil, isSpacing_nil⟩

/-- A member that holds a text of one character. -/
def letterMember (name : String) (plain : ArePlain name.toList) (char : Char)
    (plain' : IsPlain char) : ObjectMember :=
  tightMember name plain.spells (.text (.plain plain' .nil))

theorem spellsText_letter {char : Char} (plain : IsPlain char) :
    SpellsText (quoted [char]) (String.ofList [char]) := by
  refine ⟨[char], rfl, ?_⟩
  rw [String.toList_ofList]
  exact .plain plain .nil

/-- An identifier whose name begins with an escape. -/
def escapedId : ObjectMember :=
  have quad : Quad ['0', '0', '4', '9'] 'I'.toNat :=
    .digits (w := 0) (x := 0) (y := 4) (z := 9) rfl rfl rfl rfl
  have named : Spells ('\\' :: 'u' :: (['0', '0', '4', '9'] ++ ['D'])) "ID".toList :=
    .unit quad (.plain (by decide) .nil)
  have value : IsBody ['a'] := .plain (by decide) .nil
  tightMember "ID" named (.text value)

/-- A member of another name that holds half a surrogate pair. -/
def halfPair : ObjectMember :=
  have quad : Quad ['d', '8', '0', '0'] 0xD800 :=
    .digits (w := 13) (x := 8) (y := 0) (z := 0) rfl rfl rfl rfl
  have plain : ArePlain "x".toList := by decide
  tightMember "x" plain.spells (.text (.unit quad .nil))

/-- An identifier inside of an object. -/
def innerId : Labelled :=
  ⟨⟨[], quoted "ID".toList, []⟩, ⟨[' '], quoted ['b'], []⟩⟩

theorem isValue_innerId : IsValue (enclosed '\x7b' '\x7d' [] ([innerId].map Labelled.chars)) := by
  have plain : ArePlain "ID".toList := by decide
  apply IsValue.object isSpacing_nil <;> rw [List.forall_mem_singleton]
  · exact ⟨⟨isSpacing_nil, isSpacing_nil⟩, ⟨by decide, isSpacing_nil⟩⟩
  · exact ⟨_, plain.spells.isBody, rfl⟩
  · exact .text (.plain (by decide) .nil)

/-- A member that holds such an object. -/
def nested (name : String) (plain : ArePlain name.toList) : ObjectMember :=
  tightMember name plain.spells isValue_innerId

/-- Names may be written with escapes, and stand again inside of other values. -/
theorem known_members_decide_of_escaped_name :
    let mixed := "\x7b\"Who\":\"w\",\"x\":\x7b\"ID\": \"b\"\x7d," ++
      "\"\\u0049D\":\"a\",\"x\":\"\\ud800\"\x7d"
    let sorted := "\x7b\"\\u0049D\":\"a\",\"Who\":\"w\"\x7d"
    let owned := "\x7b\"member\":\"m\",\"name\":\"n\"," ++
      "\"member\":\x7b\"ID\": \"b\"\x7d\x7d"
    let bare := "\x7b\"name\":\"n\"\x7d"
    ∃ lock node, lock.id = "a" ∧ lock.path = "" ∧
      Plans.decodeLock (Utf8.encode mixed) = .ok lock ∧
      Plans.decodeLock (Utf8.encode sorted) = .ok lock ∧
      node.name = "n" ∧ node.member = "" ∧
      Node.decode (Utf8.encode owned) = .ok node ∧ Node.decode (Utf8.encode bare) = .ok node := by
  intro mixed sorted owned bare
  let who := letterMember "Who" (by decide) 'w' (by decide)
  let name := letterMember "name" (by decide) 'n' (by decide)
  let owner := letterMember "member" (by decide) 'm' (by decide)
  have admitted : Lock.shape.Admits (Lock.shape.known [escapedId, who]) := by
    constructor
    · decide
    · change ∀ entry ∈ [("ID", quoted ['a']), ("Who", quoted ['w'])], _
      rw [List.forall_mem_cons, List.forall_mem_singleton]
      exact ⟨⟨_, rfl, _, spellsText_letter (by decide)⟩, ⟨_, rfl, _, spellsText_letter (by decide)⟩⟩
  have admittedNode : Node.shape.Admits (Node.shape.known [name]) := by
    constructor
    · decide
    · change ∀ entry ∈ [("name", quoted ['n'])], _
      rw [List.forall_mem_singleton]
      exact ⟨_, rfl, _, spellsText_letter (by decide)⟩
  rcases known_members_decide.1 _ admitted with ⟨lock, told, decode⟩
  rcases known_members_decide.2.1 _ admittedNode with ⟨node, toldNode, decodeNode⟩
  have id : lock.id = "a" :=
    (told.id.given _ List.mem_cons_self).unique (spellsText_letter (by decide))
  have path : lock.path = "" := by
    apply told.path.absent
    change ∀ chars, ("Path", chars) ∉ [("ID", quoted ['a']), ("Who", quoted ['w'])]
    simp
  have named : node.name = "n" :=
    (toldNode.name.given _ List.mem_cons_self).unique (spellsText_letter (by decide))
  have ownedRead := decodeNode (tightObject [owner, name, nested "member" (by decide)]) (by decide)
  exact ⟨lock, node, id, path,
    decode (tightObject [who, nested "x" (by decide), escapedId, halfPair]) (by decide),
    decode (tightObject [escapedId, who]) (by decide), named,
    known_members_decide.2.2 _ _ ownedRead, ownedRead,
    decodeNode (tightObject [name]) (by decide)⟩

end ControlPlane
