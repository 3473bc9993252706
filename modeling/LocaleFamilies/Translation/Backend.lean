import LocaleFamilies.FileTree.Fault
import LocaleFamilies.SortedMap
import LocaleFamilies.Translation.Request

/-! What a pass works with: a backend that translates, and a storage for the files. Both act on a
state that is left open, and either may fail after it has changed the state. -/
namespace LocaleFamilies

universe u

abbrev Content := SortedMap Code String

structure Backend (σ : Type u) where
  name : String
  /-- Content for locales that have no file yet. -/
  create : Request → σ → σ × Except String Content
  /-- Brings existing files up to date in place. -/
  update : Request → σ → σ × Except String Unit

structure Storage (σ : Type u) where
  makeDirectories : Path → σ → σ × Except Fault Unit
  write : Path → String → σ → σ × Except Fault Unit

end LocaleFamilies
