import KernelRollout.Proofs.Cluster.Relabel
import KernelRollout.Rollout.Operand

namespace KernelRollout

variable {id₁ id₂ : Identity} {s₁ s₂ t₁ t₂ : String}

-- Texts that end alike end alike in their last characters.
theorem Text.append_inj_of_length (h : s₁ ++ t₁ = s₂ ++ t₂) (hl : t₁.length = t₂.length) :
    s₁ = s₂ ∧ t₁ = t₂ := by
  have hchars := congrArg String.toList h
  rw [String.toList_append, String.toList_append] at hchars
  have ⟨hs, ht⟩ := List.append_inj' hchars (by rwa [String.length_toList, String.length_toList])
  exact ⟨String.toList_inj.mp hs, String.toList_inj.mp ht⟩

-- Endings that differ in their last characters are never taken for each other.
theorem Text.append_ne {u₁ u₂ e₁ e₂ : String} (ht₁ : t₁ = u₁ ++ e₁) (ht₂ : t₂ = u₂ ++ e₂)
    (hl : e₁.length = e₂.length) (hne : e₁ ≠ e₂) : s₁ ++ t₁ ≠ s₂ ++ t₂ := by
  intro h
  rw [ht₁, ht₂, ← String.append_assoc, ← String.append_assoc] at h
  exact hne (append_inj_of_length h hl).right

-- What stands before the first separator, and what stands behind it.
theorem Text.append_separator_inj {c : Char} (h₁ : c ∉ s₁.toList) (h₂ : c ∉ s₂.toList)
    (h : s₁ ++ String.singleton c ++ t₁ = s₂ ++ String.singleton c ++ t₂) : s₁ = s₂ ∧ t₁ = t₂ := by
  have hchars := congrArg String.toList h
  simp only [String.toList_append, String.toList_singleton, List.append_assoc,
    List.singleton_append] at hchars
  have hcut {s t : String} (hs : c ∉ s.toList) :
      (s.toList ++ c :: t.toList).takeWhile (· ≠ c) = s.toList := by
    rw [List.takeWhile_append_of_pos fun d hd => by simpa using fun he : d = c => hs (he ▸ hd)]
    simp
  have hs : s₁.toList = s₂.toList := by rw [← hcut h₁, hchars, hcut h₂]
  rw [hs] at hchars
  have ht := List.append_cancel_left hchars
  exact ⟨String.toList_inj.mp hs, String.toList_inj.mp (List.cons.inj ht).right⟩

theorem Identity.text_inj (h₁ : '/' ∉ id₁.ns.toList) (h₂ : '/' ∉ id₂.ns.toList)
    (h : id₁.text = id₂.text) : id₁ = id₂ := by
  have ⟨hns, hname⟩ := Text.append_separator_inj h₁ h₂ h
  cases id₁
  cases id₂
  simp_all

namespace Marker

-- The keys of a resource, from the lead, the namespace and the name.
def lead : Marker → String
  | loader | sfc => loaderLead
  | ready        => readyLead

def ending : Marker → String
  | loader => "-module"
  | sfc    => "-sfcmodule"
  | ready  => ""

theorem key_eq (id : Identity) (m : Marker) :
    m.key id = m.lead ++ (id.ns ++ "." ++ (id.name ++ m.ending)) := by
  cases m <;> simp [key, lead, ending, String.append_assoc]

theorem lead_eq_of_key_eq {m₁ m₂ : Marker} (h : m₁.key id₁ = m₂.key id₂) : m₁.lead = m₂.lead := by
  have hhead := congrArg (·.toList.head?) h
  cases m₁ <;> cases m₂ <;> simp [key, loaderLead, readyLead] at hhead <;> rfl

-- Endings of markers with one lead are told apart by the seventh character from the end.
theorem ending_inj {m₁ m₂ : Marker} (hlead : m₁.lead = m₂.lead)
    (h : s₁ ++ m₁.ending = s₂ ++ m₂.ending) : m₁ = m₂ ∧ s₁ = s₂ := by
  have hne (s s' : String) : s ++ "-module" ≠ s' ++ "-sfcmodule" :=
    Text.append_ne (show _ = "" ++ "-module" from rfl) (show _ = "-sf" ++ "cmodule" from rfl)
      (by decide) (by decide)
  have hleads : loaderLead ≠ readyLead := by decide
  cases m₁ <;> cases m₂
  case loader.loader | sfc.sfc | ready.ready =>
    exact ⟨rfl, (String.append_left_inj _).mp h⟩
  case loader.sfc => exact absurd h (hne _ _)
  case sfc.loader => exact absurd h.symm (hne _ _)
  case loader.ready | sfc.ready => exact absurd hlead hleads
  case ready.loader | ready.sfc => exact absurd hlead.symm hleads

theorem eq_of_key_eq {m₁ m₂ : Marker} (h₁ : '.' ∉ id₁.ns.toList) (h₂ : '.' ∉ id₂.ns.toList)
    (h : m₁.key id₁ = m₂.key id₂) : m₁ = m₂ ∧ id₁ = id₂ := by
  have hlead := lead_eq_of_key_eq h
  rw [key_eq, key_eq, hlead] at h
  have hrest := (String.append_right_inj _).mp h
  have ⟨hns, hname⟩ := Text.append_separator_inj h₁ h₂ hrest
  have ⟨hm, hname⟩ := ending_inj hlead hname
  exact ⟨hm, by cases id₁; cases id₂; simp_all⟩

end Marker

namespace ModuleKind

theorem eq_of_resourceName_eq {k₁ k₂ : ModuleKind} (h : k₁.resourceName s₁ = k₂.resourceName s₂) :
    k₁ = k₂ ∧ s₁ = s₂ := by
  have hne (s s' : String) : s ++ "-onload-module" ≠ s' ++ "-sfc-module" :=
    Text.append_ne (show _ = "-onloa" ++ "d-module" from rfl) (show _ = "-sf" ++ "c-module" from rfl)
      (by decide) (by decide)
  cases k₁ <;> cases k₂
  case onload.onload | sfc.sfc => exact ⟨rfl, (String.append_left_inj _).mp h⟩
  case onload.sfc => exact absurd h (hne _ _)
  case sfc.onload => exact absurd h.symm (hne _ _)

end ModuleKind

namespace Operand

theorem cplaneName_inj (h : cplaneName s₁ = cplaneName s₂) : s₁ = s₂ :=
  (String.append_left_inj _).mp h

theorem devicePluginName_inj (h : devicePluginName s₁ = devicePluginName s₂) : s₁ = s₂ :=
  (String.append_left_inj _).mp h

theorem cplaneName_ne_devicePluginName : cplaneName s₁ ≠ devicePluginName s₂ :=
  Text.append_ne (show "-onload-cplane-ds" = "-onload-cplan" ++ "e-ds" from rfl)
    (show "-onload-device-plugin-ds" = "-onload-device-plugi" ++ "n-ds" from rfl) (by decide) (by decide)

-- The two daemon sets of a resource.
inductive Daemon where
  | cplane
  | devicePlugin
deriving DecidableEq

namespace Daemon

def resourceName (name : String) : Daemon → String
  | cplane       => cplaneName name
  | devicePlugin => devicePluginName name

theorem eq_of_resourceName_eq {d₁ d₂ : Daemon} (h : d₁.resourceName s₁ = d₂.resourceName s₂) :
    d₁ = d₂ ∧ s₁ = s₂ := by
  cases d₁ <;> cases d₂
  case cplane.cplane => exact ⟨rfl, cplaneName_inj h⟩
  case devicePlugin.devicePlugin => exact ⟨rfl, devicePluginName_inj h⟩
  case cplane.devicePlugin => exact absurd h cplaneName_ne_devicePluginName
  case devicePlugin.cplane => exact absurd h.symm cplaneName_ne_devicePluginName

theorem resourceName_inj {d₁ d₂ : Daemon} {name : String} :
    d₁.resourceName name = d₂.resourceName name ↔ d₁ = d₂ :=
  ⟨fun h => (eq_of_resourceName_eq h).left, fun h => h ▸ rfl⟩

end Daemon

end Operand

-- Keys and names are equal only if they are made in the same way of the same parts.
theorem keys_and_names_inj :
    (∀ (m₁ m₂ : Marker) (id₁ id₂ : Identity), '.' ∉ id₁.ns.toList → '.' ∉ id₂.ns.toList →
      (m₁.key id₁ = m₂.key id₂ ↔ m₁ = m₂ ∧ id₁.ns = id₂.ns ∧ id₁.name = id₂.name)) ∧
    (∀ (k₁ k₂ : ModuleKind) (name₁ name₂ : String),
      k₁.resourceName name₁ = k₂.resourceName name₂ ↔ k₁ = k₂ ∧ name₁ = name₂) ∧
    ∀ (d₁ d₂ : Operand.Daemon) (name₁ name₂ : String),
      d₁.resourceName name₁ = d₂.resourceName name₂ ↔ d₁ = d₂ ∧ name₁ = name₂ := by
  refine ⟨fun m₁ m₂ id₁ id₂ h₁ h₂ => ⟨fun h => ?_, ?_⟩, fun k₁ k₂ name₁ name₂ => ?_,
    fun d₁ d₂ name₁ name₂ => ?_⟩
  · have ⟨hm, hid⟩ := Marker.eq_of_key_eq h₁ h₂ h
    exact ⟨hm, hid ▸ rfl, hid ▸ rfl⟩
  · rintro ⟨rfl, hns, hname⟩
    rw [Marker.key_eq, Marker.key_eq, hns, hname]
  · exact ⟨ModuleKind.eq_of_resourceName_eq, fun ⟨hk, hname⟩ => hk ▸ hname ▸ rfl⟩
  · exact ⟨Operand.Daemon.eq_of_resourceName_eq, fun ⟨hd, hname⟩ => hd ▸ hname ▸ rfl⟩

-- Names that end like the keys and names that are made from them.
theorem keys_and_names_inj_endings :
    '.' ∉ "a".toList ∧ Marker.loader.key ⟨"a", "b.c-sfc"⟩ ≠ Marker.sfc.key ⟨"a", "b.c"⟩ ∧
      Marker.loader.key ⟨"a", "b.c-module"⟩ ≠ Marker.loader.key ⟨"a", "b.c"⟩ ∧
      ModuleKind.onload.resourceName "b-sfc-module" ≠ ModuleKind.sfc.resourceName "b-onload-module" ∧
      Operand.Daemon.cplane.resourceName "b-ds" ≠ Operand.Daemon.devicePlugin.resourceName "b" := by
  have ⟨hkey, hmodule, hdaemon⟩ := keys_and_names_inj
  have hpoint : '.' ∉ "a".toList := by decide
  refine ⟨hpoint, fun h => ?_, fun h => ?_, fun h => ?_, fun h => ?_⟩
  · cases ((hkey _ _ ⟨"a", _⟩ ⟨"a", _⟩ hpoint hpoint).mp h).left
  · exact absurd ((hkey _ _ ⟨"a", _⟩ ⟨"a", _⟩ hpoint hpoint).mp h).right.right (by decide)
  · cases ((hmodule _ _ _ _).mp h).left
  · cases ((hdaemon _ _ _ _).mp h).left

-- A point in a namespace could as well be in the name.
example : Marker.ready.key ⟨"a.b", "c"⟩ = Marker.ready.key ⟨"a", "b.c"⟩ := by decide

end KernelRollout
