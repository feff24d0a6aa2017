import Mathlib.Data.List.Induction
import Mermaid.Proofs.Settings.Fields

/-!
# The cascade of settings

A client gives options again and again, in place of what it has given before or on top of it. Each
field of the settings that are resolved in the end is found on its own: it has the latest value that
the client gave for it since everything was replaced, else the value of the project file, and else
its default.

Options with a time that is too large are refused as a whole, so even what they hold for other
fields is lost.

* `Settings.Giving` is what a client gives, and `Settings.current` lists the options that count;
* `Resolver.value?_takeAll` says what the resolver knows of a field afterwards;
* `Resolver.resolves_latest` is the cascade.
-/

namespace Mermaid

namespace Settings

/-- What a client gives: options in place of all that it has given before, or on top of it. -/
inductive Giving
  | replace (o : Options)
  | extend (o : Options)

/-- The options that are given. -/
def Giving.options : Giving → Options
  | .replace o => o
  | .extend o => o

/-- Of what a client has given, latest first, the options since the last ones that replaced
everything, these included. -/
def current : List Giving → List Options
  | [] => []
  | .replace o :: _ => [o]
  | .extend o :: gs => o :: current gs

/-- The latest value that a client has given for a field, in a list that begins with what was given
last. Options that are refused do not count. -/
def latest? (gs : List Giving) (f : Field) : Option f.Value :=
  (current (gs.filter fun g => !g.options.isRefused)).findSome? fun o => o.given? f

lemma latest?_cons_of_refused {g : Giving} (h : g.options.isRefused = true) (gs : List Giving)
    (f : Field) : latest? (g :: gs) f = latest? gs f := by
  rw [latest?, List.filter_cons_of_neg (by simp [h]), latest?]

lemma latest?_replace {o : Options} (h : (Giving.replace o).options.isRefused = false)
    (gs : List Giving) (f : Field) : latest? (.replace o :: gs) f = o.given? f := by
  rw [latest?, List.filter_cons_of_pos (by simp [h]), current]
  cases hgiven : o.given? f <;> simp [hgiven]

lemma latest?_extend {o : Options} (h : (Giving.extend o).options.isRefused = false)
    (gs : List Giving) (f : Field) :
    latest? (.extend o :: gs) f = (o.given? f).or (latest? gs f) := by
  rw [latest?, List.filter_cons_of_pos (by simp [h]), current,
    List.findSome?_cons, latest?]
  cases o.given? f <;> rfl

end Settings

namespace Resolver

open Settings

/-- The resolver after options have been given to it. Options that are refused change nothing. -/
def take (r : Resolver) (g : Giving) : Resolver :=
  match (ofOptions g.options).result, g with
  | .error _, _ => r
  | .ok p, .replace _ => r.replace p
  | .ok p, .extend _ => r.extend p

lemma root_take (r : Resolver) (g : Giving) : (r.take g).root = r.root := by
  unfold take
  split <;> rfl

/-- Refused options are not taken. -/
lemma take_of_refused {g : Giving} (h : g.options.isRefused = true) (r : Resolver) :
    r.take g = r := by
  have herror : (ofOptions g.options).result = .error .numberTooLarge :=
    ofOptions_eq_error_iff.2 ⟨rfl, h⟩
  simp only [take, herror]

lemma take_replace {o : Options} {p : Patch} (h : (ofOptions o).result = .ok p) (r : Resolver) :
    r.take (.replace o) = r.replace p := by
  simp only [take, Giving.options, h]

lemma take_extend {o : Options} {p : Patch} (h : (ofOptions o).result = .ok p) (r : Resolver) :
    r.take (.extend o) = r.extend p := by
  simp only [take, Giving.options, h]

/-- One giving: the client's values are the latest ones, when they were so before. -/
lemma value?_take {r : Resolver} {gs : List Giving} (hr : ∀ f, r.client.value? f = latest? gs f)
    (g : Giving) (f : Field) : (r.take g).client.value? f = latest? (g :: gs) f := by
  cases hrefused : g.options.isRefused with
  | true => rw [take_of_refused hrefused, latest?_cons_of_refused hrefused, hr f]
  | false =>
    cases g with
    | replace o =>
      obtain ⟨p, hp : (ofOptions o).result = .ok p⟩ := exists_ofOptions hrefused
      rw [take_replace hp, latest?_replace hrefused]
      exact value?_of_ofOptions hp f
    | extend o =>
      obtain ⟨p, hp : (ofOptions o).result = .ok p⟩ := exists_ofOptions hrefused
      have hgiven : p.value? f = o.given? f := value?_of_ofOptions hp f
      rw [take_extend hp, latest?_extend hrefused, ← hr f, ← hgiven]
      exact Patch.value?_orElse p r.client f

/-- The resolver of a workspace after a client has given options to it. -/
def takeAll (root : Option String) (gs : List Giving) : Resolver :=
  gs.foldl take { root := root }

lemma takeAll_concat (root : Option String) (gs : List Giving) (g : Giving) :
    takeAll root (gs ++ [g]) = (takeAll root gs).take g := by
  rw [takeAll, List.foldl_append]
  rfl

lemma root_takeAll (root : Option String) (gs : List Giving) : (takeAll root gs).root = root := by
  induction gs using List.reverseRecOn with
  | nil => rfl
  | append_singleton gs g ih => rw [takeAll_concat, root_take, ih]

/-- All that a client gives: the resolver knows the latest value of each field. -/
lemma value?_takeAll (root : Option String) (gs : List Giving) (f : Field) :
    (takeAll root gs).client.value? f = latest? gs.reverse f := by
  induction gs using List.reverseRecOn generalizing f with
  | nil => exact Patch.value?_empty f
  | append_singleton gs g ih =>
    rw [takeAll_concat, value?_take ih, List.reverse_append]
    rfl

/-- What the resolver makes of its own values, those of the project file and the defaults. -/
lemma value?_resolve [Platform] {r : Resolver} {files : FileTree} {s : Settings}
    (h : (r.resolve files).result = .ok s) (f : Field) :
    s.value? f =
      ((r.client.value? f).or (projectValue? files r.root f)).or (({} : Settings).value? f) := by
  rw [resolve] at h
  cases hproject : (readProject files r.root).result with
  | error fault => rw [hproject] at h; cases h
  | ok p =>
    rw [hproject] at h
    obtain rfl : (r.client.orElse p).apply {} = s := Except.ok.inj h
    rw [value?_apply, Patch.value?_orElse, value?_of_readProject hproject]

/-- What is resolved in the end: the latest value of the client, else that of the project file, and
else the default. -/
lemma value?_resolve_takeAll [Platform] {files : FileTree} {root : Option String}
    {gs : List Giving} {s : Settings} (h : ((takeAll root gs).resolve files).result = .ok s)
    (f : Field) :
    s.value? f =
      ((latest? gs.reverse f).or (projectValue? files root f)).or (({} : Settings).value? f) := by
  rw [value?_resolve h, value?_takeAll, root_takeAll]

lemma resolve_eq_error_iff [Platform] {r : Resolver} {files : FileTree} {fault : Fault} :
    (r.resolve files).result = .error fault ↔ RefusedProject files r.root fault := by
  rw [← readProject_eq_error_iff, resolve]
  cases (readProject files r.root).result <;> simp [Except.map]

/-- **The cascade of settings.** Whatever a client has given to the resolver of a workspace, the
settings are resolved unless the project file is refused. Each of their fields has the latest value
that the client gave for it since the last options that replaced everything, else the value of the
project file, and else its default. Options with a time that is too large do not count at all.

A value that does not fit its field is ignored whatever it is: the warning about it can be written
down, however deep the value lies inside others. -/
theorem resolves_latest [Platform] (files : FileTree) (root : Option String) (gs : List Giving) :
    (∀ fault, ((takeAll root gs).resolve files).result = .error fault ↔
      RefusedProject files root fault) ∧
    ∀ s, ((takeAll root gs).resolve files).result = .ok s → ∀ f : Field, s.value? f =
      ((latest? gs.reverse f).or (projectValue? files root f)).or (({} : Settings).value? f) := by
  constructor
  · intro fault
    rw [resolve_eq_error_iff, root_takeAll]
  · intro s h f
    exact value?_resolve_takeAll h f

section Usual

open Platform.Usual

/-- A width that is out of range and one that is no number leave the earlier width, and the
validator is that of the project file. -/
theorem resolves_latest_width :
    ∃ s, ((takeAll (some "/w")
        [.replace (.json (.object [("mermaid", .object [("indentWidth", .int 2)])])),
          .extend (.json (.object [("indentWidth", .int 17), ("validator", .null)])),
          .extend (.json (.object [("indentWidth", .string "3")]))]).resolve
        { home := ["w"],
          entries := [([".mmdlsp.toml"],
            .file (Utf8.encode "validator = 'command'".toList))] }).result
        = .ok s ∧ s.indentWidth = 2 ∧ s.validator = .command := by
  set files : FileTree :=
    { home := ["w"],
      entries := [([".mmdlsp.toml"], .file (Utf8.encode "validator = 'command'".toList))] }
  set gs : List Giving :=
    [.replace (.json (.object [("mermaid", .object [("indentWidth", .int 2)])])),
      .extend (.json (.object [("indentWidth", .int 17), ("validator", .null)])),
      .extend (.json (.object [("indentWidth", .string "3")]))]
  have hresolved := resolves_latest files (some "/w") gs
  cases hresult : ((takeAll (some "/w") gs).resolve files).result with
  | error fault =>
    have hread : (readProject files (some "/w")).result.isOk = true := by decide +kernel
    rw [readProject_eq_error_iff.2 ((hresolved.1 fault).1 hresult)] at hread
    cases hread
  | ok s =>
    have hwidth := hresolved.2 s hresult .indentWidth
    have hvalidator := hresolved.2 s hresult .validator
    have hlatest : ((latest? gs.reverse .indentWidth).or
        (projectValue? files (some "/w") .indentWidth)).or (({} : Settings).value? .indentWidth) =
        (some (2 : Nat) : Option Field.indentWidth.Value) := by
      decide +kernel
    have hfile : ((latest? gs.reverse .validator).or
        (projectValue? files (some "/w") .validator)).or (({} : Settings).value? .validator) =
        (some ValidatorChoice.command : Option Field.validator.Value) := by
      decide +kernel
    exact ⟨s, rfl, Option.some.inj (hwidth.trans hlatest), Option.some.inj (hvalidator.trans hfile)⟩

/-- A debounce that is too large for a double takes the width beside it along. -/
theorem not_forall_resolves_latest :
    ¬∀ (files : FileTree) (root : Option String) (gs : List Giving) (s : Settings),
      ((takeAll root gs).resolve files).result = .ok s → ∀ f : Field, s.value? f =
        (((current gs.reverse).findSome? fun o => o.given? f).or
          (projectValue? files root f)).or (({} : Settings).value? f) := by
  intro h
  set o : Options := .json (.object [("debounce", .int (10 ^ 400)), ("indentWidth", .int 2)])
  have hrefused : (Giving.replace o).options.isRefused = true := by decide +kernel
  have htake : takeAll none [.replace o] = {} := by
    rw [takeAll, List.foldl_cons, List.foldl_nil, take_of_refused hrefused]
  have hwidth := h { home := [] } none [.replace o] {} (by rw [htake]; rfl) .indentWidth
  have hgiven : o.given? .indentWidth = (some (2 : Nat) : Option Field.indentWidth.Value) := by
    decide +kernel
  simp only [List.reverse_singleton, current, List.findSome?_cons, hgiven] at hwidth
  cases hwidth

end Usual

end Resolver

end Mermaid
