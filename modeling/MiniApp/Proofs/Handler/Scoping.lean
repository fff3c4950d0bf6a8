import MiniApp.Proofs.Handler.Splice

/-!
# Qualifying names by their scope

A name that a handler uses should stand for a member of the component if nothing that is in scope
binds it. Qualifying goes by what has been declared so far instead, whether or not the block around
the declaration has ended.

* `qualify_by_scope_iff`: the two rules agree about a use if and only if its name is declared before
  it exactly when it is in scope; nothing but uses is ever changed.

A function that is declared is in scope but not declared any more behind its body, a name that is
declared below its use is in scope too, and what a block declares is still declared behind the
block but no longer in scope.
-/

set_option autoImplicit false

namespace MiniApp.Handler

open MiniApp.Script

/-- Two lists of declarations make the same of a name if it is in both or in none of them. -/
theorem isContextMember_congr_iff (declared other : List String) (name : String) :
    (isContextMember declared name ↔ isContextMember other name) ↔
      (isContextMember [] name → (name ∈ declared ↔ name ∈ other)) := by
  rw [isContextMember_iff declared, isContextMember_iff other]
  by_cases hmember : isContextMember [] name
  · have hnot : (name ∉ declared ↔ name ∉ other) ↔ (name ∈ declared ↔ name ∈ other) := not_iff_not
    simpa [hmember] using hnot
  · simp [hmember]

/-- Qualifying a handler changes nothing but uses of names, and it decides about a use by the scope
of its name if and only if the name is declared before the use exactly when it is in scope. -/
theorem qualify_by_scope_iff {content : String} {uses : List Use}
    (huses : uses? content.toList = some uses) :
    ∃ found, changes? content.toList = some found ∧
      qualify content = some (String.ofList (spliced found content.toList)) ∧
      (∀ change ∈ found, ∃ use ∈ uses, change = use.change) ∧
      ∀ use ∈ uses,
        ((use.change ∈ found ↔ isContextMember use.visible use.name) ↔
          (isContextMember [] use.name → (use.name ∈ use.before ↔ use.name ∈ use.visible))) := by
  refine ⟨changesOf uses, ?_, ?_, ?_, ?_⟩
  · rw [changes?_eq, huses]
    rfl
  · rw [qualify_eq_spliced, huses]
    rfl
  · intro change hchange
    obtain ⟨use, huse, hsame⟩ := List.mem_map.mp hchange
    exact ⟨use, List.mem_of_mem_filter huse, hsame.symm⟩
  · intro use huse
    rw [change_mem_iff huses huse]
    exact isContextMember_congr_iff use.before use.visible use.name

/-- Behind a block that declares it, `x` is declared but not in scope, and left alone. -/
theorem qualify_by_scope_block :
    ∃ uses, uses? "\x7b let x = 1; \x7d x".toList = some uses ∧
      uses.map (fun use => (use.name, use.before, use.visible)) = [("x", ["x"], [])] ∧
      ∃ found, changes? "\x7b let x = 1; \x7d x".toList = some found ∧
        qualify "\x7b let x = 1; \x7d x" =
          some (String.ofList (spliced found "\x7b let x = 1; \x7d x".toList)) ∧
        (∀ change ∈ found, ∃ use ∈ uses, change = use.change) ∧
        ∀ use ∈ uses,
          ((use.change ∈ found ↔ isContextMember use.visible use.name) ↔
            (isContextMember [] use.name → (use.name ∈ use.before ↔ use.name ∈ use.visible))) := by
  have huses : uses? "\x7b let x = 1; \x7d x".toList =
      some [⟨"x", ⟨1, 0⟩, false, ["x"], []⟩] := by
    decide +kernel
  exact ⟨_, huses, rfl, qualify_by_scope_iff huses⟩

/-- A function that is declared is in scope behind its body, and yet it is called on the
component. -/
theorem declared_function_qualified :
    qualify "function f() \x7b\x7d f()" = some "function f() \x7b\x7d _ctx.f()" ∧
      ¬ ∀ (content : String) uses found, uses? content.toList = some uses →
        changes? content.toList = some found →
          ∀ use ∈ uses, (use.change ∈ found ↔ isContextMember use.visible use.name) := by
  have hqualify : qualify "function f() \x7b\x7d f()" = some "function f() \x7b\x7d _ctx.f()" := by
    decide +kernel
  have huses : uses? "function f() \x7b\x7d f()".toList =
      some [⟨"f", ⟨3, 2⟩, false, [], ["f"]⟩] := by
    decide +kernel
  have hchanges : changes? "function f() \x7b\x7d f()".toList = some [qualifyName ⟨3, 2⟩] := by
    decide +kernel
  have hchanged : Use.change ⟨"f", ⟨3, 2⟩, false, [], ["f"]⟩ ∈ [qualifyName ⟨3, 2⟩] :=
    List.mem_singleton.mpr rfl
  have hscoped : ¬ isContextMember ["f"] "f" := by
    decide +kernel
  refine ⟨hqualify, fun hscope => ?_⟩
  have hiff := hscope "function f() \x7b\x7d f()" _ _ huses hchanges _ (List.mem_singleton.mpr rfl)
  exact hscoped (hiff.mp hchanged)

end MiniApp.Handler
