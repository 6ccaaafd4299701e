import ControlPlane.Proofs.Cluster.ReachedNodes
import ControlPlane.Proofs.Registry.WrittenRoles

/-!
# The role filter

A list of nodes is narrowed by requested texts, each of which has to be found in the written
list of a node's roles.  Where quotes, backslashes and control characters are kept out of
the roles and of the request, and a request is more than brackets and commas, this comes to
being found in a single role.  So the filter asks for parts of roles, and a node that has
the requested roles themselves is never left out.

With a character that is escaped in writing this fails: a node with the role `rack "A"` is
not found by its role.
-/

namespace ControlPlane.Nodes

variable {database : Database} {writes : WriteSet}

/-! ## Matching -/

theorem matchesRoles_iff {wanted : List String} {node : Node} :
    Registers.matchesRoles wanted node = true ↔
      ∀ role ∈ wanted, role.toList <:+: (Json.Document.texts node.roles).write.toList := by
  rw [Registers.matchesRoles, List.all_eq_true]
  exact forall₂_congr fun role _ => containsChars_iff _ _

/-- A node with the requested roles matches, if these are found within their quoted forms. -/
theorem matchesRoles_of_subset {wanted : List String} {node : Node}
    (shown : ∀ role ∈ wanted, Json.ShowsItself role) (has : ∀ role ∈ wanted, role ∈ node.roles) :
    Registers.matchesRoles wanted node = true :=
  matchesRoles_iff.2 fun role member =>
    (shown role member).trans (Json.quote_infix_write_texts (has role member))

/-- No node matches a text with a control character. -/
theorem not_matchesRoles_of_control {wanted : List String} {role : String} (asked : role ∈ wanted)
    {char : Char} (inside : char ∈ role.toList) (control : char.toNat < 32) (node : Node) :
    ¬Registers.matchesRoles wanted node = true := by
  intro matched
  have written := (matchesRoles_iff.1 matched role asked).subset inside
  have visible := Json.visible_of_mem_write_texts written
  omega

/-- Where nothing is escaped, a node matches the texts that are parts of single roles. -/
theorem matchesRoles_iff_of_plain {wanted : List String} {node : Node}
    (plain : ∀ role ∈ node.roles, Json.Plain role)
    (asked : ∀ role ∈ wanted, Json.Plain role ∧ ∃ char ∈ role.toList, char ∉ ['[', ']', ',']) :
    Registers.matchesRoles wanted node = true ↔
      ∀ role ∈ wanted, ∃ own ∈ node.roles, role.toList <:+: own.toList := by
  rw [matchesRoles_iff]
  refine forall₂_congr fun role member => ?_
  rcases asked role member with ⟨plainRole, worded⟩
  have unquoted : '"' ∉ role.toList := fun inside => (plainRole _ inside).1 rfl
  rw [Json.infix_write_texts_iff unquoted worded]
  -- The escaped form of an own role is the role itself.
  constructor
  · rintro ⟨own, has, part⟩
    rw [Json.escaped_of_plain (plain own has)] at part
    exact ⟨own, has, part⟩
  · rintro ⟨own, has, part⟩
    rw [← Json.escaped_of_plain (plain own has)] at part
    exact ⟨own, has, part⟩

/-- Two requests at once are matched by what matches both. -/
theorem matchesRoles_iff_and {wanted first second : List String}
    (same : ∀ role, role ∈ wanted ↔ role ∈ first ++ second) {node : Node} :
    Registers.matchesRoles wanted node = true ↔
      Registers.matchesRoles first node = true ∧ Registers.matchesRoles second node = true := by
  simp only [matchesRoles_iff, same, List.mem_append, or_imp, forall_and]

/-! ## A single node -/

/-- A node with one role is on record, and no other. -/
theorem reached_single (role : String)
    (short : Codec.Measured (Json.Document.texts [role]).write) :
    ∃ writes, Reached (.empty .memory) writes ∧
      ∀ node, get node.name (.empty .memory) writes = (.ok node, writes) ↔
        node = ⟨"n1", [role], 1, "", "member-1"⟩ := by
  let change : Change := .create "member-1" "n1" [role] 1 ""
  have written : encodeRoles [role] = (Json.Document.texts [role]).write := by
    rw [encodeRoles, sortTexts, List.mergeSort_singleton]
    rfl
  have measured : change.Measured := by
    refine ⟨(by decide : Codec.Measured "member-1"), ?_, (by decide : Codec.Measured "")⟩
    rw [written]
    exact short
  have keeps : Registers.KeptRoles [role] [role] := ⟨List.pairwise_singleton _ _, fun _ => Iff.rfl⟩
  rcases records_created "n1" measured with ⟨kept, keeps', is⟩
  obtain rfl := keeps.unique keeps'
  refine ⟨_, (Reached.empty .memory).change change measured, fun node => ?_⟩
  have staged : change.action (.empty .memory) .empty =
      (.ok (), WriteSet.empty.put .nodes "n1"
        (Row.codec.encode ⟨"member-1", encodeRoles [role], 1, ""⟩)) :=
    create_apply (Medium.canFind_memory _)
  rw [staged]
  have seen := (Database.empty .memory).value?_put .empty .nodes "n1"
    (Row.codec.encode ⟨"member-1", encodeRoles [role], 1, ""⟩) .nodes node.name
  by_cases named : node.name = "n1"
  · rw [if_pos ⟨rfl, named⟩] at seen
    rw [← named] at is
    rw [get_of_records (Medium.canFind_memory _) seen is, named]
    constructor
    · intro found
      cases found
      rfl
    · rintro rfl
      rfl
  · rw [if_neg fun same => named same.2] at seen
    rw [get_of_none (Medium.canFind_memory _) seen]
    constructor
    · intro found
      cases found
    · rintro rfl
      exact absurd rfl named

/-! ## What is found -/

/-- A node that has all the requested roles is listed, if each of these is found within its
quoted form.  A request with a control character lists no node at all. -/
theorem asked_roles_are_found (reached : Reached database writes) (wanted : List String) :
    ∃ nodes, list wanted database writes = (.ok nodes, writes) ∧
      ((∀ role ∈ wanted, Json.ShowsItself role) →
        ∀ node, get node.name database writes = (.ok node, writes) →
          (∀ role ∈ wanted, role ∈ node.roles) → node ∈ nodes) ∧
      ((∃ role ∈ wanted, ∃ char ∈ role.toList, char.toNat < 32) → nodes = []) := by
  rcases reached.lists wanted with ⟨nodes, listed, lists⟩
  refine ⟨nodes, listed, ?_, ?_⟩
  · intro shown node found has
    exact (lists.mem_iff node).2 ⟨found, matchesRoles_of_subset shown has⟩
  · rintro ⟨role, asked, char, inside, control⟩
    apply List.eq_nil_iff_forall_not_mem.2
    intro node member
    exact not_matchesRoles_of_control asked inside control node ((lists.mem_iff node).1 member).2

/-- A plain role is found, and a tab is not. -/
theorem asked_roles_are_found_of_compute :
    let node : Node := ⟨"n1", ["compute"], 1, "", "member-1"⟩
    ∃ writes, Reached (.empty .memory) writes ∧
      get "n1" (.empty .memory) writes = (.ok node, writes) ∧
      (∃ nodes, list ["compute"] (.empty .memory) writes = (.ok nodes, writes) ∧ node ∈ nodes) ∧
      list ["\t"] (.empty .memory) writes = (.ok [], writes) := by
  intro node
  rcases reached_single "compute" (by decide) with ⟨writes, reached, found⟩
  have stored : get "n1" (.empty .memory) writes = (.ok node, writes) := (found node).2 rfl
  refine ⟨writes, reached, stored, ?_, ?_⟩
  · rcases asked_roles_are_found reached ["compute"] with ⟨nodes, listed, finds, _⟩
    refine ⟨nodes, listed, finds ?_ node stored fun role asked => asked⟩
    intro role asked
    rw [List.mem_singleton.1 asked]
    exact Json.Plain.showsItself (by decide)
  · rcases asked_roles_are_found reached ["\t"] with ⟨nodes, listed, _, empty⟩
    rw [listed, empty ⟨"\t", List.mem_cons_self, '\t', by decide, by decide⟩]

/-- Without a condition on the requested roles, a node that has them may be left out. -/
theorem not_asked_roles_are_found :
    ¬∀ (database : Database) (writes : WriteSet), Reached database writes →
      ∀ (wanted : List String) (node : Node),
        get node.name database writes = (.ok node, writes) →
        (∀ role ∈ wanted, role ∈ node.roles) →
        ∃ nodes, list wanted database writes = (.ok nodes, writes) ∧ node ∈ nodes := by
  intro finds
  rcases reached_single "rack \"A\"" (by decide) with ⟨writes, reached, found⟩
  rcases finds _ _ reached ["rack \"A\""] _ ((found _).2 rfl) (fun role asked => asked) with
    ⟨nodes, listed, member⟩
  rcases reached.lists ["rack \"A\""] with ⟨nodes', listed', lists⟩
  cases listed.symm.trans listed'
  have unmatched : Registers.matchesRoles ["rack \"A\""]
      ⟨"n1", ["rack \"A\""], 1, "", "member-1"⟩ = false := by decide
  exact absurd ((lists.mem_iff _).1 member).2 (Bool.eq_false_iff.1 unmatched)

/-- Where nothing is escaped, a request lists the nodes with a single role around each of
its texts, if each has a character besides brackets and commas.  In any case, requests
taken together list what both of them list, and neither order nor repetition counts. -/
theorem list_finds_parts_of_roles (reached : Reached database writes) :
    (∀ wanted,
      (∀ node, get node.name database writes = (.ok node, writes) →
        ∀ role ∈ node.roles, Json.Plain role) →
      (∀ role ∈ wanted, Json.Plain role ∧ ∃ char ∈ role.toList, char ∉ ['[', ']', ',']) →
      ∃ nodes, list wanted database writes = (.ok nodes, writes) ∧
        Lists database writes
          (fun node => ∀ role ∈ wanted, ∃ own ∈ node.roles, role.toList <:+: own.toList) nodes) ∧
    ∀ first second, ∃ nodes nodes',
      list first database writes = (.ok nodes, writes) ∧
      list second database writes = (.ok nodes', writes) ∧
      ∀ wanted, (∀ role, role ∈ wanted ↔ role ∈ first ++ second) →
        list wanted database writes =
          (.ok (nodes.filter fun node => decide (node ∈ nodes')), writes) := by
  refine ⟨?_, ?_⟩
  · intro wanted plain asked
    rcases reached.lists wanted with ⟨nodes, listed, lists⟩
    exact ⟨nodes, listed, lists.congr fun node found =>
      matchesRoles_iff_of_plain (plain node found) asked⟩
  · intro first second
    rcases reached.lists first with ⟨nodes, listed, lists⟩
    rcases reached.lists second with ⟨nodes', listed', lists'⟩
    refine ⟨nodes, nodes', listed, listed', fun wanted same => ?_⟩
    rcases reached.lists wanted with ⟨both, listedBoth, listsBoth⟩
    have split := listsBoth.congr fun _ _ => matchesRoles_iff_and same
    rw [listedBoth, split.unique (lists.inter lists')]

/-- A part of a role is found, alone and with another part. -/
theorem list_finds_parts_of_roles_of_extra :
    let node : Node := ⟨"n1", ["compute-extra"], 1, "", "member-1"⟩
    ∃ writes nodes nodes', Reached (.empty .memory) writes ∧
      get "n1" (.empty .memory) writes = (.ok node, writes) ∧
      list ["compute"] (.empty .memory) writes = (.ok nodes, writes) ∧ node ∈ nodes ∧
      list ["extra"] (.empty .memory) writes = (.ok nodes', writes) ∧
      list ["extra", "compute", "extra"] (.empty .memory) writes =
        (.ok (nodes.filter fun node => decide (node ∈ nodes')), writes) := by
  intro node
  rcases reached_single "compute-extra" (by decide) with ⟨writes, reached, found⟩
  rcases list_finds_parts_of_roles reached with ⟨parts, together⟩
  rcases together ["compute"] ["extra"] with ⟨nodes, nodes', listed, listed', both⟩
  have stored : get "n1" (.empty .memory) writes = (.ok node, writes) := (found node).2 rfl
  refine ⟨writes, nodes, nodes', reached, stored, listed, ?_, listed', both _ ?_⟩
  · have plain : ∀ node, get node.name (.empty .memory) writes = (.ok node, writes) →
        ∀ role ∈ node.roles, Json.Plain role := by
      intro other present role has
      rw [(found other).1 present, List.mem_singleton] at has
      rw [has]
      decide
    have asked : ∀ role ∈ ["compute"],
        Json.Plain role ∧ ∃ char ∈ role.toList, char ∉ ['[', ']', ','] := by
      intro role member
      rw [List.mem_singleton.1 member]
      exact ⟨by decide, 'c', by decide, by decide⟩
    rcases parts ["compute"] plain asked with ⟨others, again, lists⟩
    cases listed.symm.trans again
    refine (lists.mem_iff node).2 ⟨stored, ?_⟩
    intro role member
    rw [List.mem_singleton.1 member]
    exact ⟨"compute-extra", List.mem_cons_self, by decide⟩
  · intro role
    simp only [List.mem_cons, List.mem_append, List.not_mem_nil, or_false]
    tauto

end ControlPlane.Nodes
