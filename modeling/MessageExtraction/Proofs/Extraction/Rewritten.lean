import MessageExtraction.Proofs.Extraction.Rewriting

/-!
# What rewriting preserves

What can be read off a tree before a run can be read off what the run makes of it.

* `Rewrites.evaluate`: an expression with a value keeps it.
* `RewritesAll.literalOf?`, `RewritesAll.readFields`: attributes keep their literals and their values.
-/

namespace MessageExtraction

open Syntax (Tree Span Identifier)
open Component (renamed)

namespace Syntax.Tree

/-- What holds of a tree if it holds of every smaller one, holds of all trees. -/
theorem induction_on_size {P : Tree → Prop}
    (step : ∀ t, (∀ u, sizeOf u < sizeOf t → P u) → P t) (t : Tree) : P t :=
  step t fun u _ => induction_on_size step u
termination_by sizeOf t

theorem sizeOf_field {kind : Kind} {span : Option Span} {fields : List Tree} {t : Tree}
    (h : t ∈ fields) : sizeOf t < sizeOf (node kind span fields) := by
  have := List.sizeOf_lt_of_mem h
  rw [node.sizeOf_spec]
  omega

theorem sizeOf_item {items : List Tree} {t : Tree} (h : t ∈ items) : sizeOf t < sizeOf (list items) := by
  have := List.sizeOf_lt_of_mem h
  rw [list.sizeOf_spec]
  omega

theorem sizeOf_listed {kind : Kind} {span : Option Span} {items fields : List Tree} {t : Tree}
    (h : t ∈ items) (listed : list items ∈ fields) : sizeOf t < sizeOf (node kind span fields) :=
  Nat.lt_trans (sizeOf_item h) (sizeOf_field listed)

end Syntax.Tree

/-- Each of the second of two lists that are related one by one is related to one of the first. -/
theorem forall₂_exists_of_mem {α β : Type} {R : α → β → Prop} {xs : List α} {ys : List β} {y : β}
    (h : List.Forall₂ R xs ys) (mem : y ∈ ys) : ∃ x ∈ xs, R x y := by
  obtain ⟨k, hk, rfl⟩ := List.getElem_of_mem mem
  exact ⟨_, List.getElem_mem (h.length_eq ▸ hk), h.get _ hk⟩

namespace Pass

variable {pass : Pass} {r : Registry} {names : List String} {t u : Tree} {ts us : List Tree}

/-! ## Several trees -/

theorem RewritesAll.forall₂ (h : pass.RewritesAll r names ts us) :
    List.Forall₂ (pass.Rewrites r names) ts us := by
  induction ts generalizing us with
  | nil =>
    cases h
    exact .nil
  | cons t ts ih =>
    obtain _ | ⟨head, tail⟩ := h
    exact .cons head (ih tail)

/-- Each of several trees has its counterpart after a run. -/
theorem RewritesAll.exists_of_mem (h : pass.RewritesAll r names ts us) (mem : t ∈ ts) :
    ∃ u ∈ us, pass.Rewrites r names t u := forall₂_exists_of_mem h.forall₂.flip mem

/-! ## Names -/

theorem Rewrites.eq_identifier {span : Option Span} {name' : String} {o' d' : Tree}
    (h : pass.Rewrites r names t (.identifier span name' o' d')) :
    ∃ name o d, t = .identifier span name o d ∧ name' = renamed names name := by
  cases h with
  | identifier => exact ⟨_, _, _, rfl, rfl⟩
  | node plain fields =>
    obtain _ | ⟨⟨⟩, _ | ⟨_, _ | ⟨_, _ | _⟩⟩⟩ := fields
    contradiction

theorem Rewrites.eq_identifierName {span : Option Span} {name : String}
    (h : pass.Rewrites r names t (.identifierName span name)) : t = .identifierName span name := by
  cases h with | node _ fields =>
  obtain _ | ⟨⟨⟩, _ | _⟩ := fields
  rfl

/-! ## Expressions -/

theorem Rewrites.unwrap : (t : Tree) → {u : Tree} → {names : List String} →
    pass.Rewrites r names t u → pass.Rewrites r names t.unwrap u.unwrap
  | t, u, names, h => by
    rw [Syntax.Tree.unwrap.eq_def t]
    split
    · rename_i e
      cases h with | node _ fields =>
      obtain _ | ⟨inner, _ | _⟩ := fields
      rw [Tree.unwrap]
      exact Rewrites.unwrap e inner
    · rename_i e declaredType
      cases h with | node _ fields =>
      obtain _ | ⟨inner, _ | ⟨_, _ | _⟩⟩ := fields
      rw [Tree.unwrap]
      exact Rewrites.unwrap e inner
    · rename_i e
      cases h with | node _ fields =>
      obtain _ | ⟨inner, _ | _⟩ := fields
      rw [Tree.unwrap]
      exact Rewrites.unwrap e inner
    · rename_i e declaredType
      cases h with | node _ fields =>
      obtain _ | ⟨inner, _ | ⟨_, _ | _⟩⟩ := fields
      rw [Tree.unwrap]
      exact Rewrites.unwrap e inner
    · rename_i parenthesis typed constant satisfied
      rw [Syntax.Tree.unwrap.eq_def u]
      split
      · cases h with | node _ fields =>
        obtain _ | ⟨_, _ | _⟩ := fields
        exact (parenthesis _ _ rfl).elim
      · cases h with | node _ fields =>
        obtain _ | ⟨_, _ | ⟨_, _ | _⟩⟩ := fields
        exact (typed _ _ _ rfl).elim
      · cases h with | node _ fields =>
        obtain _ | ⟨_, _ | _⟩ := fields
        exact (constant _ _ rfl).elim
      · cases h with | node _ fields =>
        obtain _ | ⟨_, _ | ⟨_, _ | _⟩⟩ := fields
        exact (satisfied _ _ _ rfl).elim
      · exact h

theorem Rewrites.stringValue? (h : pass.Rewrites r names t u) : u.stringValue? = t.stringValue? := by
  rw [Syntax.Tree.stringValue?.eq_def t]
  split
  · cases h with | node _ fields =>
    obtain _ | ⟨⟨⟩, _ | ⟨_, _ | _⟩⟩ := fields
    rfl
  · rename_i other
    rw [Syntax.Tree.stringValue?.eq_def u]
    split
    · cases h with | node _ fields =>
      obtain _ | ⟨⟨⟩, _ | ⟨_, _ | _⟩⟩ := fields
      exact (other _ _ _ rfl).elim
    · rfl

theorem Rewrites.staticKey? {key : String} (h : pass.Rewrites r names t u)
    (found : t.staticKey? = some key) : u.staticKey? = some key := by
  rw [Syntax.Tree.staticKey?.eq_def] at found
  split at found
  · cases h with | node _ fields =>
    obtain _ | ⟨⟨⟩, _ | _⟩ := fields
    exact found
  · cases h with | node _ fields =>
    obtain _ | ⟨⟨⟩, _ | ⟨_, _ | _⟩⟩ := fields
    exact found
  · cases h with | node _ fields =>
    obtain _ | ⟨⟨⟩, _ | _⟩ := fields
    exact found
  · contradiction

theorem Rewrites.chunkText? {text : String} (h : pass.Rewrites r names t u)
    (found : t.chunkText? = some text) : u.chunkText? = some text := by
  rw [Syntax.Tree.chunkText?.eq_def] at found
  split at found
  · cases h with | node _ fields =>
    obtain _ | ⟨_, _ | ⟨⟨⟩, _ | ⟨_, _ | ⟨_, _ | _⟩⟩⟩⟩ := fields
    exact found
  · contradiction

/-- Whether texts that are known stay as they are. -/
def TextsKept (texts texts' : List (Option String)) : Prop :=
  List.Forall₂ (fun a b => ∀ text, a = some text → b = some text) texts texts'

theorem RewritesAll.templateText? {texts texts' : List (Option String)} {text : String}
    (h : pass.RewritesAll r names ts us) (kept : TextsKept texts texts')
    (found : Syntax.Tree.templateText? ts texts = some text) :
    Syntax.Tree.templateText? us texts' = some text := by
  induction ts generalizing us texts texts' text with
  | nil =>
    cases h
    exact found
  | cons t ts ih =>
    obtain _ | ⟨head, tail⟩ := h
    cases kept with
    | nil =>
      simp only [Syntax.Tree.templateText?, Option.bind_eq_bind, Option.bind_eq_some_iff] at found ⊢
      obtain ⟨chunk, known, rest, found, eq⟩ := found
      exact ⟨chunk, head.chunkText? known, rest, ih tail .nil found, eq⟩
    | cons between others =>
      simp only [Syntax.Tree.templateText?, Option.bind_eq_bind, Option.bind_eq_some_iff] at found ⊢
      obtain ⟨chunk, known, text, hText, rest, found, eq⟩ := found
      exact ⟨chunk, head.chunkText? known, text, between text hText, rest, ih tail others found, eq⟩

/-- Whether an expression keeps its value, if it has one. -/
def KeepsValue (pass : Pass) (r : Registry) (e : Tree) : Prop :=
  ∀ {names : List String} {u : Tree} {v : StaticValue}, "undefined" ∉ names →
    pass.Rewrites r names e u → e.evaluate = some v → u.evaluate = some v

theorem RewritesAll.evaluateTexts (keep : ∀ e ∈ ts, KeepsValue pass r e)
    (defined : "undefined" ∉ names) (h : pass.RewritesAll r names ts us) :
    TextsKept (Tree.evaluateTexts ts) (Tree.evaluateTexts us) := by
  induction ts generalizing us with
  | nil =>
    cases h
    exact List.Forall₂.nil
  | cons t ts ih =>
    obtain _ | ⟨head, tail⟩ := h
    refine List.Forall₂.cons (fun text known => ?_)
      (ih (fun e he => keep e (List.mem_cons_of_mem t he)) tail)
    obtain ⟨v, value, known⟩ := Option.bind_eq_some_iff.mp known
    exact Option.bind_eq_some_iff.mpr ⟨v, keep t List.mem_cons_self defined head value, known⟩

theorem RewritesAll.evaluateItems {vs : List StaticValue}
    (keep : ∀ e, .element none e ∈ ts → KeepsValue pass r e) (defined : "undefined" ∉ names)
    (h : pass.RewritesAll r names ts us) (found : Tree.evaluateItems ts = some vs) :
    Tree.evaluateItems us = some vs := by
  induction ts generalizing us vs with
  | nil =>
    cases h
    exact found
  | cons t ts ih =>
    rw [Syntax.Tree.evaluateItems.eq_def] at found
    split at found
    · contradiction
    · rename_i e es eq
      cases eq
      obtain _ | ⟨head, tail⟩ := h
      cases head with | node _ fields =>
      obtain _ | ⟨inner, _ | _⟩ := fields
      simp only [Tree.evaluateItems, Option.bind_eq_bind, Option.bind_eq_some_iff] at found ⊢
      obtain ⟨v, value, vs, values, eq⟩ := found
      exact ⟨v, keep e List.mem_cons_self defined inner value, vs,
        ih (fun e he => keep e (List.mem_cons_of_mem _ he)) tail values, eq⟩
    · contradiction

theorem RewritesProperties.evaluate {ps : List (String × StaticValue)}
    (keep : ∀ key e, .keyValueProperty key e ∈ ts → KeepsValue pass r e)
    (defined : "undefined" ∉ names) (h : pass.RewritesProperties r names ts us)
    (found : Tree.evaluateProperties ts = some ps) :
    Tree.evaluateProperties us = some ps := by
  induction ts generalizing us ps with
  | nil =>
    cases h
    exact found
  | cons t ts ih =>
    rw [Syntax.Tree.evaluateProperties.eq_def] at found
    split at found
    · contradiction
    · rename_i key e rest eq
      cases eq
      cases h with | property _ head tail =>
      cases head with | node _ fields =>
      obtain _ | ⟨keyRewritten, _ | ⟨inner, _ | _⟩⟩ := fields
      simp only [Tree.evaluateProperties, Option.bind_eq_bind, Option.bind_eq_some_iff]
        at found ⊢
      obtain ⟨k, known, v, value, ps, values, eq⟩ := found
      exact ⟨k, keyRewritten.staticKey? known, v,
        keep key e List.mem_cons_self defined inner value, ps,
        ih (fun key e he => keep key e (List.mem_cons_of_mem _ he)) tail values, eq⟩
    · contradiction

namespace KeepsValue

variable {span : Option Span}

/-- Of the names only `undefined` has a value, and that one is not changed. -/
theorem identifier {name : String} {isOptional declaredType : Tree} :
    KeepsValue pass r (.identifier span name isOptional declaredType) := by
  intro names u v defined h found
  rw [Tree.evaluate] at found
  split at found
  · rename_i eq
    subst eq
    cases h with
    | identifier =>
      rw [Tree.evaluate, renamed, if_neg defined, if_pos rfl]
      exact found
    | node plain => contradiction
  · contradiction

theorem templateLiteral {expressions chunks : List Tree}
    (keep : ∀ e ∈ expressions, KeepsValue pass r e) :
    KeepsValue pass r (.templateLiteral span expressions chunks) := by
  intro names u v defined h found
  cases h with | node _ fields =>
  obtain _ | ⟨texts, _ | ⟨quasis, _ | _⟩⟩ := fields
  cases texts with | list texts =>
  cases quasis with | list quasis =>
  rw [Tree.evaluate] at found ⊢
  obtain ⟨text, known, rfl⟩ := Option.map_eq_some_iff.mp found
  rw [quasis.templateText? (texts.evaluateTexts keep defined) known]
  rfl

theorem binaryExpression {operator : String} {left right : Tree} (keepLeft : KeepsValue pass r left)
    (keepRight : KeepsValue pass r right) :
    KeepsValue pass r (.binaryExpression span operator left right) := by
  intro names u v defined h found
  cases h with | node _ fields =>
  obtain _ | ⟨⟨⟩, _ | ⟨leftRewritten, _ | ⟨rightRewritten, _ | _⟩⟩⟩ := fields
  rw [Tree.evaluate] at found ⊢
  split at found
  · rename_i plus
    simp only [Option.bind_eq_bind, Option.bind_eq_some_iff] at found
    obtain ⟨v, hLeft, w, hRight, found⟩ := found
    rw [if_pos plus, keepLeft defined leftRewritten hLeft, keepRight defined rightRewritten hRight]
    exact found
  · contradiction

theorem unaryExpression {operator : String} {argument : Tree} (keep : KeepsValue pass r argument) :
    KeepsValue pass r (.unaryExpression span operator argument) := by
  intro names u v defined h found
  cases h with | node _ fields =>
  obtain _ | ⟨⟨⟩, _ | ⟨inner, _ | _⟩⟩ := fields
  rw [Tree.evaluate] at found ⊢
  split at found
  · rename_i minus
    split at found
    · rename_i n number
      rw [if_pos minus, keep defined inner number]
      exact found
    · contradiction
  · contradiction

theorem arrayExpression {elements : List Tree}
    (keep : ∀ e, .element none e ∈ elements → KeepsValue pass r e) :
    KeepsValue pass r (.arrayExpression span elements) := by
  intro names u v defined h found
  cases h with | node _ fields =>
  obtain _ | ⟨items, _ | _⟩ := fields
  cases items with | list items =>
  rw [Tree.evaluate] at found ⊢
  obtain ⟨vs, values, rfl⟩ := Option.map_eq_some_iff.mp found
  rw [items.evaluateItems keep defined values]
  rfl

theorem objectExpression {properties : List Tree}
    (keep : ∀ key e, .keyValueProperty key e ∈ properties → KeepsValue pass r e) :
    KeepsValue pass r (.objectExpression span properties) := by
  intro names u v defined h found
  cases h with
  | object rewritten =>
    rw [Tree.evaluate] at found ⊢
    obtain ⟨ps, values, rfl⟩ := Option.map_eq_some_iff.mp found
    rw [rewritten.evaluate keep defined values]
    rfl
  | node plain => contradiction

end KeepsValue

/-- An expression with a value keeps it. -/
theorem Rewrites.evaluate (t : Tree) : KeepsValue pass r t := by
  induction t using Tree.induction_on_size with | step t ih =>
  intro names u v defined h known
  have found := known
  rw [Syntax.Tree.evaluate.eq_def] at found
  split at found
  · rename_i e
    cases h with | node _ fields =>
    obtain _ | ⟨inner, _ | _⟩ := fields
    rw [Tree.evaluate]
    exact ih e (Tree.sizeOf_field (by simp)) defined inner found
  · rename_i e _
    cases h with | node _ fields =>
    obtain _ | ⟨inner, _ | ⟨_, _ | _⟩⟩ := fields
    rw [Tree.evaluate]
    exact ih e (Tree.sizeOf_field (by simp)) defined inner found
  · rename_i e
    cases h with | node _ fields =>
    obtain _ | ⟨inner, _ | _⟩ := fields
    rw [Tree.evaluate]
    exact ih e (Tree.sizeOf_field (by simp)) defined inner found
  · rename_i e _
    cases h with | node _ fields =>
    obtain _ | ⟨inner, _ | ⟨_, _ | _⟩⟩ := fields
    rw [Tree.evaluate]
    exact ih e (Tree.sizeOf_field (by simp)) defined inner found
  · cases h with | node _ fields =>
    obtain _ | ⟨⟨⟩, _ | ⟨_, _ | _⟩⟩ := fields
    exact known
  · cases h with | node _ fields =>
    obtain _ | ⟨⟨⟩, _ | _⟩ := fields
    exact known
  · cases h with | node _ fields =>
    obtain _ | ⟨⟨⟩, _ | _⟩ := fields
    exact known
  · cases h with | node _ fields =>
    cases fields
    exact known
  · exact KeepsValue.identifier defined h known
  · exact KeepsValue.templateLiteral (fun e he => ih e (Tree.sizeOf_listed he (by simp))) defined h known
  · exact KeepsValue.binaryExpression (ih _ (Tree.sizeOf_field (by simp)))
      (ih _ (Tree.sizeOf_field (by simp))) defined h known
  · exact KeepsValue.unaryExpression (ih _ (Tree.sizeOf_field (by simp))) defined h known
  · refine KeepsValue.arrayExpression (fun e he => ih e ?_) defined h known
    exact Nat.lt_trans (Tree.sizeOf_field List.mem_cons_self) (Tree.sizeOf_listed he (by simp))
  · refine KeepsValue.objectExpression (fun key e he => ih e ?_) defined h known
    exact Nat.lt_trans (Tree.sizeOf_field (by simp)) (Tree.sizeOf_listed he (by simp))
  · contradiction

theorem Rewrites.evaluateText {text : Option String} (h : pass.Rewrites r names t u)
    (defined : "undefined" ∉ names) (found : t.evaluateText = some text) :
    u.evaluateText = some text := by
  rw [Tree.evaluateText, Option.bind_eq_bind, Option.bind_eq_some_iff] at found
  obtain ⟨v, value, found⟩ := found
  rw [Tree.evaluateText, Rewrites.evaluate t defined h value]
  exact found

end Pass

/-! ## Attributes -/

namespace Markup

/-- The name and the value of an attribute. -/
def attribute? : Tree → Option (String × Tree)
  | .jsxAttribute _ (.identifierName _ name) value => some (name, value)
  | _ => none

theorem valuesOf_cons (name : String) (t : Tree) (ts : List Tree) :
    valuesOf name (t :: ts)
      = ((attribute? t).filter fun a => a.1 = name).toList.map Prod.snd ++ valuesOf name ts := by
  rw [attribute?.eq_def]
  split
  · rename_i written value
    by_cases eq : written = name <;> simp [valuesOf, eq, Option.filter]
  · rename_i other
    rw [valuesOf, List.filterMap_cons]
    split
    · rfl
    · rename_i found
      split at found
      · exact (other _ _ _ _ rfl).elim
      · contradiction

theorem valuesOf_append (name : String) (ts us : List Tree) :
    valuesOf name (ts ++ us) = valuesOf name ts ++ valuesOf name us :=
  List.filterMap_append

theorem readFields_cons (fields : Descriptor.Fields) (t : Tree) (ts : List Tree) :
    ∃ span, readFields fields (t :: ts)
      = match attribute? t with
        | none => readFields fields ts
        | some (name, value) =>
            match Descriptor.Key.ofName? name with
            | none => readFields fields ts
            | some key =>
                match fieldText? value with
                | none => .error (name, span)
                | some none => readFields fields ts
                | some (some text) => readFields (fields.set key text) ts := by
  cases found : attribute? t with
  | none =>
    rw [attribute?.eq_def] at found
    split at found
    · contradiction
    · exact ⟨none, readFields.eq_3 _ _ _ ‹_›⟩
  | some a =>
    rw [attribute?.eq_def] at found
    split at found
    · cases found
      exact ⟨_, rfl⟩
    · contradiction

end Markup

namespace Pass

variable {pass : Pass} {r : Registry} {names : List String} {t u : Tree} {ts us : List Tree}

theorem Rewrites.literal? (h : pass.Rewrites r names t u) :
    Markup.literal? u = Markup.literal? t := by
  rw [Markup.literal?.eq_def t]
  split
  · rename_i e
    cases h with | node _ fields =>
    obtain _ | ⟨inner, _ | _⟩ := fields
    exact (Rewrites.unwrap e inner).stringValue?
  · rename_i other
    rw [Markup.literal?.eq_def u]
    split
    · cases h with | node _ fields =>
      obtain _ | ⟨_, _ | _⟩ := fields
      exact (other _ _ rfl).elim
    · exact h.stringValue?

/-- An attribute keeps its name. -/
theorem Rewrites.attribute? (h : pass.Rewrites r names t u) :
    Markup.attribute? t = none ∧ Markup.attribute? u = none
      ∨ ∃ name value value', Markup.attribute? t = some (name, value)
        ∧ Markup.attribute? u = some (name, value') ∧ pass.Rewrites r names value value' := by
  rw [Markup.attribute?.eq_def t]
  split
  · cases h with | node _ fields =>
    obtain _ | ⟨written, _ | ⟨value, _ | _⟩⟩ := fields
    cases written with | node _ written =>
    obtain _ | ⟨⟨⟩, _ | _⟩ := written
    exact .inr ⟨_, _, _, rfl, rfl, value⟩
  · rename_i other
    rw [Markup.attribute?.eq_def u]
    split
    · cases h with | node _ fields =>
      obtain _ | ⟨written, _ | ⟨value, _ | _⟩⟩ := fields
      obtain rfl := written.eq_identifierName
      exact (other _ _ _ _ rfl).elim
    · exact .inl ⟨rfl, rfl⟩

theorem RewritesAll.append {ts' us' : List Tree} (h : pass.RewritesAll r names ts us)
    (h' : pass.RewritesAll r names ts' us') : pass.RewritesAll r names (ts ++ ts') (us ++ us') := by
  induction ts generalizing us with
  | nil =>
    cases h
    exact h'
  | cons t ts ih =>
    obtain _ | ⟨head, tail⟩ := h
    exact .cons head (ih tail)

theorem RewritesAll.valuesOf (name : String) (h : pass.RewritesAll r names ts us) :
    pass.RewritesAll r names (Markup.valuesOf name ts) (Markup.valuesOf name us) := by
  induction ts generalizing us with
  | nil =>
    cases h
    exact .nil
  | cons t ts ih =>
    obtain _ | ⟨head, tail⟩ := h
    rw [Markup.valuesOf_cons, Markup.valuesOf_cons]
    refine .append ?_ (ih tail)
    rcases head.attribute? with ⟨none, none'⟩ | ⟨written, value, value', some, some', rewritten⟩
    · rw [none, none']
      exact .nil
    · rw [some, some']
      by_cases eq : written = name
      · simpa [eq, Option.filter] using .cons rewritten .nil
      · simpa [eq, Option.filter] using .nil

theorem RewritesAll.map_literal? (h : pass.RewritesAll r names ts us) :
    us.map Markup.literal? = ts.map Markup.literal? := by
  induction ts generalizing us with
  | nil =>
    cases h
    rfl
  | cons t ts ih =>
    obtain _ | ⟨head, tail⟩ := h
    rw [List.map_cons, List.map_cons, head.literal?, ih tail]

theorem RewritesAll.literalOf? (name : String) (h : pass.RewritesAll r names ts us) :
    Markup.literalOf? name us = Markup.literalOf? name ts := by
  have last (values : List Tree) : values.getLast? >>= Markup.literal?
      = (values.map Markup.literal?).getLast?.join := by
    rw [List.getLast?_map]
    cases values.getLast? <;> rfl
  rw [Markup.literalOf?, Markup.literalOf?, last, last, (h.valuesOf name).map_literal?]

theorem Rewrites.fieldText? {text : Option Descriptor.FieldText} (h : pass.Rewrites r names t u)
    (defined : "undefined" ∉ names) (found : Markup.fieldText? t = some text) :
    Markup.fieldText? u = some text := by
  rw [Markup.fieldText?.eq_def] at found
  split at found
  · cases h with | node _ fields =>
    obtain _ | ⟨⟨⟩, _ | ⟨_, _ | _⟩⟩ := fields
    exact found
  · rename_i other
    cases h with | node _ fields =>
    obtain _ | ⟨value, _ | ⟨_, _ | _⟩⟩ := fields
    rw [Markup.fieldText?.eq_2]
    · exact found
    · rintro text rfl
      cases value
      exact other _ rfl
  · rename_i e
    cases h with | node _ fields =>
    obtain _ | ⟨inner, _ | _⟩ := fields
    obtain ⟨value, known, rfl⟩ := Option.map_eq_some_iff.mp found
    rw [Markup.fieldText?, inner.evaluateText defined known]
    rfl
  · contradiction

theorem RewritesAll.readFields {fields fields' : Descriptor.Fields}
    (h : pass.RewritesAll r names ts us) (defined : "undefined" ∉ names)
    (found : Markup.readFields fields ts = .ok fields') :
    Markup.readFields fields us = .ok fields' := by
  induction ts generalizing us fields with
  | nil =>
    cases h
    exact found
  | cons t ts ih =>
    obtain _ | @⟨_, _, u, _, us, head, tail⟩ := h
    obtain ⟨span, eq⟩ := Markup.readFields_cons fields t ts
    obtain ⟨span', eq'⟩ := Markup.readFields_cons fields u us
    rw [eq] at found
    rw [eq']
    rcases head.attribute? with ⟨none, none'⟩ | ⟨written, value, value', some, some', rewritten⟩
    · rw [none] at found
      rw [none']
      exact ih tail found
    · rw [some] at found
      rw [some']
      dsimp only at found ⊢
      split at found
      · exact ih tail found
      · split at found
        · contradiction
        · rename_i absent
          rw [rewritten.fieldText? defined absent]
          exact ih tail found
        · rename_i known
          rw [rewritten.fieldText? defined known]
          exact ih tail found

end Pass

end MessageExtraction
