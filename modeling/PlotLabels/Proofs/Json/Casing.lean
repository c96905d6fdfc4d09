import PlotLabels.Proofs.Json.Object
import PlotLabels.Proofs.Text.WordCase
/-!
# Values written with snake-case keys

A record is written as an object of members with distinct snake-case keys, whose values are
again such objects or plain values. Renaming the keys of such a value touches only keys:

* `SnakeCased.rekey_eq`: a renaming that fixes every snake-case identifier fixes the value;
* `SnakeCased.rekey_rekey`: renaming by `g` and then by `f`, where `f` undoes `g` on
  snake-case identifiers, gives the value back.

With the laws of `Text.toSnakeCase` and `Text.toLowerCamelCase` on snake-case identifiers,
putting the keys of such a value into snake case changes nothing
(`SnakeCased.rekey_toSnakeCase`), and putting them into camel case and back gives the value
back (`SnakeCased.rekey_camel_snake`).
-/

namespace PlotLabels.Json

open Text

/-- Values whose objects, at every depth, are written from members with distinct snake-case
keys. -/
inductive SnakeCased : Value → Prop
  | null : SnakeCased .null
  | bool (b : Bool) : SnakeCased (.bool b)
  | number (n : Number) : SnakeCased (.number n)
  | string (s : String) : SnakeCased (.string s)
  | object {fs : List (String × Value)} : (keys fs).Nodup →
      (keys fs).all isSnakeIdentifier = true → (∀ p ∈ fs, SnakeCased p.2) →
      SnakeCased (.ofFields fs)

theorem mem_keys_of_mem {fs : List (String × Value)} {p : String × Value} (h : p ∈ fs) :
    p.1 ∈ keys fs :=
  List.mem_map_of_mem h

/-- A renaming undone on the keys leaves every member as it was. -/
theorem map_rename_eq_self {fs : List (String × Value)} {h : String → String}
    {r : Value → Value} (hk : ∀ p ∈ fs, h p.1 = p.1) (hv : ∀ p ∈ fs, r p.2 = p.2) :
    fs.map (fun p => (h p.1, r p.2)) = fs := by
  conv_rhs => rw [← List.map_id fs]
  exact List.map_congr_left fun p hp => Prod.ext (hk p hp) (hv p hp)

variable {f g : String → String}

/-- **Renaming keys by a function that fixes snake-case identifiers fixes the value.** -/
theorem SnakeCased.rekey_eq (hf : ∀ k, isSnakeIdentifier k = true → f k = k) {v : Value}
    (hv : SnakeCased v) : v.rekey f = v := by
  induction hv with
  | null | bool | number | string => rfl
  | @object fs hnd hall _ ih =>
    have hsnake := List.all_eq_true.mp hall
    -- `f` is the identity on the keys, so one-to-one on them
    have hinj : ∀ a ∈ keys fs, ∀ b ∈ keys fs, f a = f b → a = b := fun a ha b hb e => by
      rwa [hf a (hsnake a ha), hf b (hsnake b hb)] at e
    rw [rekey_ofFields hnd hinj,
      map_rename_eq_self (fun p hp => hf p.1 (hsnake p.1 (mem_keys_of_mem hp))) ih]

/-- **Renaming keys by `g` and then by `f`, where `f` undoes `g` on snake-case identifiers,
gives the value back.** -/
theorem SnakeCased.rekey_rekey (hfg : ∀ k, isSnakeIdentifier k = true → f (g k) = k)
    {v : Value} (hv : SnakeCased v) : (v.rekey g).rekey f = v := by
  induction hv with
  | null | bool | number | string => rfl
  | @object fs hnd hall _ ih =>
    have hsnake := List.all_eq_true.mp hall
    have hback : ∀ a ∈ keys fs, f (g a) = a := fun a ha => hfg a (hsnake a ha)
    -- `g` has a left inverse on the keys, so it is one-to-one on them
    have hg : ∀ a ∈ keys fs, ∀ b ∈ keys fs, g a = g b → a = b := fun a ha b hb e => by
      rw [← hback a ha, ← hback b hb, e]
    -- and `f` is one-to-one on the renamed keys, which `f` sends back
    have hf : ∀ a ∈ (keys fs).map g, ∀ b ∈ (keys fs).map g, f a = f b → a = b := by
      intro a ha b hb e
      obtain ⟨a', ha', rfl⟩ := List.mem_map.mp ha
      obtain ⟨b', hb', rfl⟩ := List.mem_map.mp hb
      rw [hback a' ha', hback b' hb'] at e
      rw [e]
    rw [rekey_ofFields hnd hg, rekey_ofFields (by rw [keys_map_rename]; exact hnd.map_on hg)
      (by rw [keys_map_rename]; exact hf), List.map_map]
    exact congrArg Value.ofFields
      (map_rename_eq_self (h := f ∘ g) (r := fun v => (v.rekey g).rekey f)
        (fun p hp => hback p.1 (mem_keys_of_mem hp)) ih)

/-- Keys already in snake case stay as they are. -/
theorem SnakeCased.rekey_toSnakeCase {v : Value} (hv : SnakeCased v) :
    v.rekey toSnakeCase = v :=
  hv.rekey_eq fun _ => toSnakeCase_of_isSnakeIdentifier

/-- Keys put into camel case come back in snake case as they were. -/
theorem SnakeCased.rekey_camel_snake {v : Value} (hv : SnakeCased v) :
    (v.rekey toLowerCamelCase).rekey toSnakeCase = v :=
  hv.rekey_rekey fun _ => toSnakeCase_toLowerCamelCase

end PlotLabels.Json
