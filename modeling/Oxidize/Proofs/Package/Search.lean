import Mathlib.Tactic.Lemma
import Oxidize.Crate.Registry

/-!
# Searching the installed packages

A look-up that names no crate takes the first package that knows the name, so it searches all of
them, and the log records that it did. Two registries are alike for an action if they hold the same
packages under the crates that the action may name, agree on the modules that it may look for, and
answer its searches in the same way (`Registry.Alike`).
-/

namespace Oxidize

open List

def Log.decisions (log : Log) : List (Table Value) :=
  (log.record?.map LogRecord.decisions).getD []

namespace Registry

/-- A registry after look-ups: its packages are the same, and decisions were only added. -/
structure Extends (g h : Registry) : Prop where
  packages : h.packages = g.packages
  isOn : h.log.isOn = g.log.isOn
  decisions : g.log.decisions <+: h.log.decisions

lemma Extends.refl (g : Registry) : g.Extends g :=
  ⟨rfl, rfl, prefix_refl _⟩

lemma Extends.trans {g h k : Registry} (hgh : g.Extends h) (hhk : h.Extends k) : g.Extends k :=
  ⟨hhk.packages.trans hgh.packages, hhk.isOn.trans hgh.isOn, hgh.decisions.trans hhk.decisions⟩

lemma Extends.note (g : Registry) (kind counter : String) (details : Table Value) :
    g.Extends ((note kind counter details).run g).2 := by
  obtain ⟨packages, ⟨record?⟩⟩ := g
  cases record? with
  | none => exact ⟨rfl, rfl, prefix_refl _⟩
  | some record => exact ⟨rfl, rfl, prefix_append _ _⟩

end Registry

inductive Search where
  | function (key : String)
  | method (key : String)
  deriving DecidableEq

namespace Search

def answer? : Search → Package → Option Mapping
  | .function key, p => p.functions.get? key
  | .method key, p => p.methods.get? key

def first? (s : Search) (packages : List Package) : Option Mapping :=
  packages.findSome? s.answer?

/-- The search that a decision of the log records: a look-up of a function searches all packages,
one of a method does so if it names no crate. -/
def ofDecision? (decision : Table Value) : Option Search :=
  match decision.get? "type", decision.get? "key" with
  | some (.str kind), some (.str key) =>
    if kind == "stub_function_lookup" then some (.function key)
    else if kind == "stub_method_lookup" && decision.has "legacy_search" then some (.method key)
    else none
  | _, _ => none

end Search

namespace Registry

def searches (g : Registry) : List Search :=
  g.log.decisions.filterMap Search.ofDecision?

variable {g h : Registry}

lemma mem_searches_of_extends (hext : g.Extends h) {s : Search} (hs : s ∈ g.searches) :
    s ∈ h.searches := by
  obtain ⟨decision, hmem, hdecision⟩ := mem_filterMap.1 hs
  exact mem_filterMap.2 ⟨decision, hext.decisions.mem hmem, hdecision⟩

lemma mem_decisions_note (hon : g.log.isOn) (kind counter : String) (details : Table Value) :
    Table.update [("type", .str kind)] details ∈
      ((note kind counter details).run g).2.log.decisions := by
  obtain ⟨packages, ⟨record?⟩⟩ := g
  cases record? with
  | none => cases hon
  | some record => exact mem_append_right _ (mem_singleton.2 rfl)

lemma map_found?_some {α : Type} (g : Registry) (crate : String) (find : Package → Option α) :
    (g.found? (some crate) find).map Prod.snd = (g.packages.get? crate).bind find := by
  unfold found?
  rw [Option.map_map]
  exact Option.map_id'

lemma map_found?_none {α : Type} (g : Registry) (find : Package → Option α) :
    (g.found? none find).map Prod.snd = g.packages.values.findSome? find := by
  unfold found?
  induction g.packages.values with
  | nil => rfl
  | cons p packages ih =>
    dsimp only at ih ⊢
    rw [findSome?_cons, findSome?_cons]
    cases find p with
    | none => exact ih
    | some a => rfl

lemma Extends.noted {α : Type} (g : Registry) (kind counter : String) (found : Option (Value × α))
    (details : Table Value) : g.Extends ((noted kind counter found details).run g).2 :=
  .note ..

lemma function?_run (g : Registry) (key : String) :
    ((function? key).run g).1 = (Search.function key).first? g.packages.values :=
  g.map_found?_none _

lemma function_mem_searches (hon : g.log.isOn) (key : String) :
    .function key ∈ ((function? key).run g).2.searches :=
  mem_filterMap.2 ⟨_, mem_decisions_note hon _ _ _, by
    cases g.found? none fun p => p.functions.get? key <;> rfl⟩

/-- A look-up of a method that names no crate gives the first answer. -/
lemma method?_none_run (g : Registry) (type method : String) :
    ((method? type method none).run g).1 =
      (Search.method s!"{type}.{method}").first? g.packages.values :=
  g.map_found?_none _

/-- A look-up of a method that names no crate is recorded as a search. -/
lemma method_mem_searches (hon : g.log.isOn) (type method : String) :
    .method s!"{type}.{method}" ∈ ((method? type method none).run g).2.searches :=
  mem_filterMap.2 ⟨_, mem_decisions_note hon _ _ _, by
    cases g.found? none fun p => p.methods.get? s!"{type}.{method}" <;> rfl⟩

lemma method?_some_run (g : Registry) (type method crate : String) :
    ((method? type method (some crate)).run g).1 =
      (g.packages.get? crate).bind fun p => p.methods.get? s!"{type}.{method}" :=
  g.map_found?_some crate _

lemma type?_some_run (g : Registry) (type crate : String) : ((type? type (some crate)).run g).1 =
      (g.packages.get? crate).bind fun p => p.types.get? type :=
  g.map_found?_some crate _

lemma variant?_some_run (g : Registry) (type variant crate : String) :
    ((variant? type variant (some crate)).run g).1 =
      (g.packages.get? crate).bind fun p => p.variants.get? s!"{type}.{variant}" :=
  g.map_found?_some crate _

/-- Two registries that agree on what an action may ask, if it makes searches that `S` allows
only. -/
structure Alike (S : Search → Prop) (K M : String → Prop) (g h : Registry) : Prop where
  package : ∀ crate, K crate → h.packages.get? crate = g.packages.get? crate
  search : ∀ s, S s → s.first? h.packages.values = s.first? g.packages.values
  module : ∀ module, M module → h.crateOfModule? module = g.crateOfModule? module

lemma Alike.congr {S : Search → Prop} {K M : String → Prop} {g' h' : Registry}
    (halike : g.Alike S K M h) (hg : g'.packages = g.packages) (hh : h'.packages = h.packages) :
    g'.Alike S K M h' := by
  refine ⟨?_, ?_, ?_⟩
  · intro crate hc
    rw [hg, hh]
    exact halike.package crate hc
  · intro s hs
    rw [hg, hh]
    exact halike.search s hs
  · intro module hm
    have hmodule := halike.module module hm
    unfold crateOfModule? packageOfModule? at hmodule ⊢
    rw [hg, hh]
    exact hmodule

lemma Alike.of_packages_eq (S : Search → Prop) (K M : String → Prop)
    (hpackages : h.packages = g.packages) : g.Alike S K M h :=
  Alike.congr (g := g) (h := g) ⟨fun _ _ => rfl, fun _ _ => rfl, fun _ _ => rfl⟩ rfl hpackages

end Registry

end Oxidize
