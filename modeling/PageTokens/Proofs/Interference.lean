import PageTokens.Proofs.Declared

/-!
# What a pass reads of a request

Without host code a pass reads two things of a request: the path, for a token
that stands for the path, and one attribute for each token that stands for an
attribute. `Token.attributeKey` says which attribute.

`substitute_noninterfering` says that nothing else of a request, and no token
that the text does not name, makes a difference to the text and the diagnostics.
-/

namespace PageTokens

variable {H σ : Type}

/-- The attribute that a token can ask for: the first positional value when this is a single text,
else the value under `key` when this is a single text, else the name. -/
def Token.attributeKey (token : Token) : Text :=
  match token.parameters.positional, token.parameters.get? "key".toList with
  | .single text :: _, _ => text
  | _, some (.single text) => text
  | _, _ => token.name

namespace Builtin

theorem attributeKey_call (token : Token) (request : Request) :
    attributeKey (token.call request) = token.attributeKey := by
  unfold attributeKey Token.attributeKey Token.call
  dsimp only
  cases token.parameters.positional with
  | nil =>
    cases token.parameters.get? "key".toList with
    | none => rfl
    | some value => cases value <;> rfl
  | cons first rest =>
    cases first with
    | single text => rfl
    | multi items =>
      cases token.parameters.get? "key".toList with
      | none => rfl
      | some value => cases value <;> rfl

/-- A built-in callback gives the same for two requests that agree on what it reads. -/
theorem run_call_congr {token : Token} {first second : Request} (builtin : Builtin)
    (attributes : builtin = .context →
      first.attribute? token.attributeKey = second.attribute? token.attributeKey)
    (paths : builtin = .path → first.path = second.path) :
    builtin.run (token.call first) = builtin.run (token.call second) := by
  cases builtin with
  | context =>
    rw [run, run, attributeKey_call, attributeKey_call]
    simp only [Token.call, attributes rfl]
  | path => simp only [run, Token.call, paths rfl]
  | join => rfl
  | upper => rfl
  | lower => rfl

end Builtin

/-- A callback that is no host code gives the same for two requests that agree on what it reads. -/
theorem Callback.result_invoke_call_congr {callback : Callback H} (declared : callback.Declared)
    {token : Token} {first second : Request}
    (attributes : callback = .builtin Builtin.context.name →
      first.attribute? token.attributeKey = second.attribute? token.attributeKey)
    (paths : callback = .builtin Builtin.path.name → first.path = second.path)
    (host : Host H σ) (here there : Site H σ) :
    (callback.invoke host (token.call first) here).result =
      (callback.invoke host (token.call second) there).result := by
  cases callback with
  | handler code => exact absurd rfl (declared code)
  | fixed text => rfl
  | builtin name =>
    simp only [invoke]
    cases found : Builtin.ofName? name with
    | none => rfl
    | some builtin =>
      obtain rfl := Builtin.ofName?_eq_some_iff.mp found
      refine Builtin.run_call_congr builtin (fun context => ?_) (fun path => ?_)
      · exact attributes (by rw [context])
      · exact paths (by rw [path])

namespace Engine

/-- Two passes over a text without host code, for two requests and with two registries. They give
the same text and the same diagnostics when the registries have the same callbacks under the names
of tokens that the text holds, and the requests agree on the attribute that each token for an
attribute asks for, and on the path if there is a token for the path. -/
theorem substitute_noninterfering (engine : Engine H σ) (text : Text) (first second : Request)
    (here there : Site H σ) (hereDeclared : here.registry.Declared)
    (thereDeclared : there.registry.Declared)
    (callbacks : ∀ occurrence ∈ occurrences engine.delimiters text,
      isTokenName occurrence.name = true →
        here.registry.callback? occurrence.name = there.registry.callback? occurrence.name)
    (attributes : ∀ occurrence ∈ occurrences engine.delimiters text,
      isTokenName occurrence.name = true →
        here.registry.callback? occurrence.name = some (.builtin Builtin.context.name) →
          first.attribute? occurrence.token.attributeKey =
            second.attribute? occurrence.token.attributeKey)
    (paths : ∀ occurrence ∈ occurrences engine.delimiters text,
      isTokenName occurrence.name = true →
        here.registry.callback? occurrence.name = some (.builtin Builtin.path.name) →
          first.path = second.path) :
    (engine.substitute first text here).text = (engine.substitute second text there).text ∧
      (engine.substitute first text here).diagnostics =
        (engine.substitute second text there).diagnostics := by
  refine engine.substitute_congr_of_declared hereDeclared thereDeclared
    fun occurrence inText => ?_
  refine engine.result_resolve_congr (callbacks occurrence inText) fun named callback found => ?_
  refine Callback.result_invoke_call_congr (hereDeclared _ callback found) ?_ ?_ _ _ _
  · rintro rfl
    exact attributes occurrence inText named found
  · rintro rfl
    exact paths occurrence inText named found

/-- Two visitors who share a language and nothing else. The lists of the tokens name no attribute,
and the second site knows a token that the text does not hold. -/
theorem substitute_noninterfering_visitors :
    let engine : Engine Empty Unit := ⟨.none, .standard⟩
    let text := "\x7b\x7blang\x7d\x7d \x7b\x7bask|a,b|key:lang\x7d\x7d \x7b\x7bgone\x7d\x7d".toList
    let here : Registry Empty := Registry.empty.applyAll
      [.register ⟨"lang".toList, .builtin "context".toList, none⟩,
        .register ⟨"ask".toList, .builtin "context".toList, none⟩]
    let there := here.insert ⟨"user".toList, .builtin "context".toList, none⟩
    let first : Request :=
      ⟨.frontend, none, .ofList [("lang".toList, "de".toList), ("user".toList, "ada".toList)]⟩
    let second : Request := ⟨.admin, some "/home".toList, .ofList [("lang".toList, "de".toList)]⟩
    (engine.substitute first text ⟨here, ()⟩).text = "de de \x7b\x7bgone\x7d\x7d".toList ∧
      (engine.substitute second text ⟨there, ()⟩).text = "de de \x7b\x7bgone\x7d\x7d".toList := by
  intro engine text here there first second
  have same := engine.substitute_noninterfering text first second ⟨here, ()⟩ ⟨there, ()⟩
    (fun _ _ _ code => nomatch code) (fun _ _ _ code => nomatch code) (by decide +kernel)
    (by decide +kernel) (by decide +kernel)
  have shown : (engine.substitute first text ⟨here, ()⟩).text =
      "de de \x7b\x7bgone\x7d\x7d".toList := by decide +kernel
  exact ⟨shown, same.1.symm.trans shown⟩

end Engine
end PageTokens
