import PubSub.FlatJson
import PubSub.ProtobufCodec

/-!
# A concrete platform

Names are compared in ASCII, messages are written with the protobuf codec, and JSON
objects are flat. Floating-point numbers are not converted, and
the machine has no names for its parts.
-/

namespace PubSub
set_option autoImplicit false

theorem lowerByte_eq_zero (c : UInt8) : lowerByte c = 0 ↔ c = 0 := by
  unfold lowerByte
  split
  · rename_i h
    have hc := UInt8.le_iff_toNat_le.mp h.1
    have hd := UInt8.le_iff_toNat_le.mp h.2
    constructor
    · intro h0
      have := congrArg UInt8.toNat h0
      simp at this hc hd
      omega
    · intro h0
      subst h0
      simp at hc
  · exact Iff.rfl

theorem lower_cString (s : Str) : lower (cString s) = cString (lower s) := by
  induction s with
  | nil => rfl
  | cons c s ih =>
    have hc := lowerByte_eq_zero c
    simp only [lower, cString, List.map_cons] at ih ⊢
    by_cases h0 : c = 0
    · have hl := hc.mpr h0
      rw [List.takeWhile_cons_of_neg (by simp [h0]), List.takeWhile_cons_of_neg (by simp [hl])]
      rfl
    · have hl : lowerByte c ≠ 0 := fun h => h0 (hc.mp h)
      rw [List.takeWhile_cons_of_pos (by simp [h0]), List.takeWhile_cons_of_pos (by simp [hl]),
        List.map_cons, ih]

namespace Platform

def reference : Platform where
  foldKey s := (lower s).map UInt8.toNat
  foldKey_eq_of_lower a b h := by rw [h]
  lower_eq_of_foldKey a b h := by
    have hab : lower a = lower b := by
      apply List.map_injective_iff.mpr ?_ h
      intro c d hcd
      exact UInt8.toNat_inj.mp hcd
    rw [lower_cString, lower_cString, hab]
  floatToString _ := str "0"
  doubleToString _ := str "0"
  stdFloatText _ := str "0"
  stdDoubleText _ := str "0"
  extractFloat _ := 0
  extractDouble _ := 0
  serializeToArray p := some (ProtobufCodec.serialize p)
  parseFromArray := ProtobufCodec.parse
  parse_serialize p b h := by
    rw [← Option.some.inj h]
    exact ProtobufCodec.parse_serialize p
  parse_nil := ProtobufCodec.parse_nil
  serializeJson := FlatJson.write
  json_names _ _ _ _ := FlatJson.write_names
  parseJson := FlatJson.read
  cpuVendor := []
  cpuModel := []
  osName := []
  osKernel := []

end Platform
end PubSub
