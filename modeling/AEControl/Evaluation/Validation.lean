/-
  `validate_source` on the syntax tree: what `ast.walk` over a nested program comes to.

  The walk visits functions in functions, class bodies and every expression, so a denied import or
  call is found however deep it is; the objection reported is that of the leftmost node on the
  highest level.  Only the literal name of a call counts: an alias or an attribute is no `callName`.
-/
import Mathlib.Order.Defs.LinearOrder
import Mathlib.Data.String.Basic
import AEControl.Lib.Walk
import AEControl.Evaluation.Sandbox

namespace AEControl.Evaluation

open Walk

/-- `ast.walk(ast.parse(source))`. -/
def walkSource (parse : String → Except String (Rose PyNode)) (source : String) :
    Except String (List PyNode) :=
  (parse source).map walk

/-! ## One node -/

/-- The objection to a node: of the denied packages it imports the alphabetically first, or the
    denied name it calls. -/
inductive Objection (policy : SandboxPolicy) : PyNode → String → Prop where
  | deniedImport {node : PyNode} {name : String} (himports : name ∈ node.imports)
    (hdenied : name ∈ policy.deniedImports)
    (hfirst : ∀ other ∈ node.imports, other ∈ policy.deniedImports → name ≤ other) :
    Objection policy node s!"source rejected: denied import {name}"
  | deniedCall {name : String} (hdenied : name ∈ policy.deniedCalls) :
    Objection policy (.callName name) s!"source rejected: denied call {name}"

/-- The policy denies the node. -/
def Denied (policy : SandboxPolicy) (node : PyNode) : Prop :=
  (∃ name ∈ node.imports, name ∈ policy.deniedImports) ∨
    ∃ name ∈ policy.deniedCalls, node = .callName name

variable {policy policy' : SandboxPolicy} {node : PyNode} {text : String}

/-- The denied packages of a node, in alphabetical order. -/
def deniedNames (policy : SandboxPolicy) (node : PyNode) : List String :=
  (node.imports.filter policy.deniedImports.contains).mergeSort (· ≤ ·)

/-- The denied names of a node are those of its imports that the policy denies. -/
theorem mem_deniedNames {name : String} :
    name ∈ deniedNames policy node ↔ name ∈ node.imports ∧ name ∈ policy.deniedImports := by
  rw [deniedNames, List.mem_mergeSort, List.mem_filter, List.contains_iff_mem]

/-- The denied names stand in their order. -/
theorem deniedNames_sorted (policy : SandboxPolicy) (node : PyNode) :
    (deniedNames policy node).Pairwise (· ≤ ·) := by
  have htrans : ∀ a b c : String, decide (a ≤ b) = true → decide (b ≤ c) = true →
      decide (a ≤ c) = true := by
    intro a b c hab hbc
    exact decide_eq_true (le_trans (of_decide_eq_true hab) (of_decide_eq_true hbc))
  have htotal : ∀ a b : String, (decide (a ≤ b) || decide (b ≤ a)) = true := by
    intro a b
    simpa using le_total a b
  have h := List.pairwise_mergeSort htrans htotal
    (node.imports.filter policy.deniedImports.contains)
  exact h.imp of_decide_eq_true

/-- An import is rejected with the first of its denied names. -/
theorem rejection_of_names {name : String} {rest : List String}
    (h : deniedNames policy node = name :: rest) :
    node.rejection policy = some s!"source rejected: denied import {name}" := by
  unfold deniedNames at h
  simp only [PyNode.rejection, h]

/-- A call by name is rejected exactly if the policy denies the name. -/
theorem rejection_callName (name : String) :
    (PyNode.callName name).rejection policy =
      if policy.deniedCalls.contains name then some s!"source rejected: denied call {name}"
      else none := by
  simp only [PyNode.rejection, PyNode.imports, List.filter_nil, List.mergeSort_nil]

/-- A node without denied imports, and no call by name, is not rejected. -/
theorem rejection_of_none (h : deniedNames policy node = [])
    (hcall : ∀ name, node ≠ .callName name) : node.rejection policy = none := by
  unfold deniedNames at h
  cases node with
  | callName name => exact absurd rfl (hcall name)
  | _ => simp only [PyNode.rejection, h]

/-- **The texts of `validate_source`.** -/
theorem rejection_iff : node.rejection policy = some text ↔ Objection policy node text := by
  have hsorted := deniedNames_sorted policy node
  cases hnames : deniedNames policy node with
  | nil =>
    have hnone : ∀ name ∈ node.imports, name ∉ policy.deniedImports := by
      intro name himports hdenied
      have hmem := mem_deniedNames.mpr ⟨himports, hdenied⟩
      rw [hnames] at hmem
      cases hmem
    constructor
    · intro h
      by_cases hcall : ∀ name, node ≠ .callName name
      · rw [rejection_of_none hnames hcall] at h
        cases h
      · push Not at hcall
        obtain ⟨name, rfl⟩ := hcall
        rw [rejection_callName] at h
        split_ifs at h with hdenied
        obtain rfl := Option.some.inj h
        exact Objection.deniedCall (List.contains_iff_mem.mp hdenied)
    · rintro (⟨himports, hdenied, -⟩ | hdenied)
      · exact absurd hdenied (hnone _ himports)
      · rw [rejection_callName, if_pos (List.contains_iff_mem.mpr hdenied)]
  | cons name rest =>
    rw [hnames] at hsorted
    have hname := mem_deniedNames.mp (hnames ▸ List.mem_cons_self : name ∈ deniedNames policy node)
    have hfirst : ∀ other ∈ node.imports, other ∈ policy.deniedImports → name ≤ other := by
      intro other himports hdenied
      have hother := mem_deniedNames.mpr ⟨himports, hdenied⟩
      rw [hnames] at hother
      rcases List.mem_cons.mp hother with rfl | hother
      · exact le_rfl
      · exact List.rel_of_pairwise_cons hsorted hother
    rw [rejection_of_names hnames]
    constructor
    · rintro ⟨⟩
      exact Objection.deniedImport hname.1 hname.2 hfirst
    · rintro (⟨himports, hdenied, hleast⟩ | hdenied)
      · rw [le_antisymm (hfirst _ himports hdenied) (hleast _ hname.1 hname.2)]
      · cases hname.1

/-- An objection is raised to a denied node only. -/
theorem denied_of_objection (h : Objection policy node text) : Denied policy node := by
  cases h with
  | deniedImport himports hdenied => exact Or.inl ⟨_, himports, hdenied⟩
  | deniedCall hdenied => exact Or.inr ⟨_, hdenied, rfl⟩

/-- Every denied node meets an objection. -/
theorem objection_of_denied (h : Denied policy node) : ∃ text, Objection policy node text := by
  rcases h with ⟨name, himports, hdenied⟩ | ⟨name, hdenied, rfl⟩
  · have hmem := mem_deniedNames.mpr ⟨himports, hdenied⟩
    obtain ⟨first, rest, hnames⟩ := List.exists_cons_of_ne_nil (List.ne_nil_of_mem hmem)
    exact ⟨_, rejection_iff.mp (rejection_of_names hnames)⟩
  · exact ⟨_, Objection.deniedCall hdenied⟩

/-- A node is rejected exactly if it is denied. -/
theorem rejection_eq_none : node.rejection policy = none ↔ ¬Denied policy node := by
  constructor
  · intro h hdenied
    obtain ⟨text, hobjection⟩ := objection_of_denied hdenied
    rw [rejection_iff.mpr hobjection] at h
    cases h
  · intro h
    refine Option.eq_none_iff_forall_ne_some.mpr fun text hsome => h ?_
    exact denied_of_objection (rejection_iff.mp hsome)

/-! ## The whole tree -/

/-- No node of the tree is denied, at whatever depth. -/
def Clean (policy : SandboxPolicy) (tree : Rose PyNode) : Prop :=
  ∀ depth node, tree.At node depth → ¬Denied policy node

/-- The leftmost denied node on the highest level that has one, with its objection. -/
def FirstDenied (policy : SandboxPolicy) (tree : Rose PyNode) (text : String) : Prop :=
  ∃ depth before node after, level depth [tree] = before ++ node :: after ∧
    Objection policy node text ∧ (∀ x ∈ before, ¬Denied policy x) ∧
      ∀ higher < depth, ∀ x, tree.At x higher → ¬Denied policy x

variable {parse : String → Except String (Rose PyNode)} {source : String} {tree : Rose PyNode}

/-- The search along the walk finds nothing exactly if no node is denied. -/
theorem search_none : (walk tree).findSome? (PyNode.rejection policy) = none ↔
    Clean policy tree := by
  rw [findSome?_walk_none]
  exact forall₂_congr fun _ _ => imp_congr_right fun _ => rejection_eq_none

/-- The search along the walk finds the objection to the first denied node. -/
theorem search_some : (walk tree).findSome? (PyNode.rejection policy) = some text ↔
    FirstDenied policy tree text := by
  rw [findSome?_walk]
  refine exists_congr fun depth => ?_
  rw [List.findSome?_eq_some_iff]
  constructor
  · rintro ⟨⟨before, node, after, hlevel, hnode, hbefore⟩, hhigher⟩
    refine ⟨before, node, after, hlevel, rejection_iff.mp hnode, fun x hx => ?_, ?_⟩
    · exact rejection_eq_none.mp (hbefore x hx)
    · intro higher hlt x hat
      have hnone := List.findSome?_eq_none_iff.mp (hhigher higher hlt)
      exact rejection_eq_none.mp (hnone x (mem_level.mpr ⟨tree, List.mem_singleton_self tree, hat⟩))
  · rintro ⟨before, node, after, hlevel, hobjection, hbefore, hhigher⟩
    refine ⟨⟨before, node, after, hlevel, rejection_iff.mpr hobjection, fun x hx => ?_⟩, ?_⟩
    · exact rejection_eq_none.mpr (hbefore x hx)
    · intro higher hlt
      refine List.findSome?_eq_none_iff.mpr fun x hx => ?_
      obtain ⟨t, ht, hat⟩ := mem_level.mp hx
      obtain rfl := List.mem_singleton.mp ht
      exact rejection_eq_none.mpr (hhigher higher hlt x hat)

/-- A looser policy denies no more. -/
structure Looser (policy policy' : SandboxPolicy) : Prop where
  source : policy.maxSourceBytes ≤ policy'.maxSourceBytes
  imports : policy'.deniedImports ⊆ policy.deniedImports
  calls : policy'.deniedCalls ⊆ policy.deniedCalls

/-- What a looser policy denies the stricter one denies, too. -/
theorem Looser.denied (h : Looser policy policy') (hdenied : Denied policy' node) :
    Denied policy node := by
  rcases hdenied with ⟨name, himports, hname⟩ | ⟨name, hname, hcall⟩
  · exact Or.inl ⟨name, himports, h.imports hname⟩
  · exact Or.inr ⟨name, h.calls hname, hcall⟩

/-- **A source is accepted exactly if it is within the size, parses and has no denied node.** -/
theorem validateSource_none : validateSource (walkSource parse) source policy = none ↔
    source.utf8ByteSize ≤ policy.maxSourceBytes ∧
      ∃ tree, parse source = .ok tree ∧ Clean policy tree := by
  unfold validateSource walkSource
  split_ifs with hsize
  · refine iff_of_false (fun h => (by cases h)) fun h => ?_
    exact absurd h.1 (not_le.mpr hsize)
  cases hparse : parse source with
  | error message =>
    refine iff_of_false (fun h => (by cases h)) ?_
    rintro ⟨-, tree, h, -⟩
    cases h
  | ok tree =>
    show (walk tree).findSome? (PyNode.rejection policy) = none ↔ _
    rw [search_none]
    constructor
    · intro hclean
      exact ⟨not_lt.mp hsize, tree, rfl, hclean⟩
    · rintro ⟨-, tree', h, hclean⟩
      obtain rfl := Except.ok.inj h
      exact hclean

/-- **A source that parses is rejected with the objection to its first denied node**, in the order
    of the walk. -/
theorem validateSource_some (hsize : source.utf8ByteSize ≤ policy.maxSourceBytes)
    (hparse : parse source = .ok tree) :
    validateSource (walkSource parse) source policy = some text ↔ FirstDenied policy tree text := by
  unfold validateSource walkSource
  rw [if_neg (not_lt.mpr hsize), hparse]
  exact search_some

/-- **What runs is clean at every depth.**  The sandbox runs the tests of a source exactly if it is
    short enough, parses, and has no denied node anywhere; a parsed source that is refused names the
    leftmost denied node of the highest level, and neither test's outcome plays a part; and what a
    policy accepts, every looser policy accepts. -/
theorem validate_source_walk {Ω : Type} (parse : String → Except String (Rose PyNode))
    (unifiedDiff : String → String → String) (policy : SandboxPolicy) (source : String) :
    (validateSource (walkSource parse) source policy = none ↔
      source.utf8ByteSize ≤ policy.maxSourceBytes ∧
        ∃ tree, parse source = .ok tree ∧ Clean policy tree) ∧
    (∀ tree text, source.utf8ByteSize ≤ policy.maxSourceBytes → parse source = .ok tree →
      (validateSource (walkSource parse) source policy = some text ↔
        FirstDenied policy tree text)) ∧
    (∀ text, validateSource (walkSource parse) source policy = some text →
      ∃ result : String → SandboxResult, ∀ (executor : TestExecutor Ω) (case : DatasetCase)
        (publicTest hiddenTest : Ω),
        CodingSandbox.run executor policy (walkSource parse) unifiedDiff case source publicTest
          hiddenTest = .ok (result executor.name) ∧
        (result executor.name).toolCalls = [] ∧ (result executor.name).publicPassed = false ∧
        (result executor.name).hiddenPassed = false) ∧
    ∀ policy', Looser policy policy' → validateSource (walkSource parse) source policy = none →
      validateSource (walkSource parse) source policy' = none := by
  refine ⟨validateSource_none, fun tree text hsize hparse => validateSource_some hsize hparse,
    ?_, ?_⟩
  · intro text hrejected
    refine ⟨fun name =>
      { patch := ""
        modifiedFiles := []
        publicTestOutput := text
        hiddenTestOutput := "not run: source rejected"
        publicPassed := false
        hiddenPassed := false
        toolCalls := []
        toolResults := []
        backend := name }, fun executor case publicTest hiddenTest => ⟨?_, rfl, rfl, rfl⟩⟩
    unfold CodingSandbox.run
    rw [hrejected]
  · intro policy' hlooser haccepted
    obtain ⟨hsize, tree, hparse, hclean⟩ := validateSource_none.mp haccepted
    refine validateSource_none.mpr ⟨hsize.trans hlooser.source, tree, hparse, ?_⟩
    exact fun depth node hat hdenied => hclean depth node hat (hlooser.denied hdenied)

end AEControl.Evaluation
