/-!
# What a value feeds to a hasher

A hasher reads a value chunk by chunk. Two values that feed it the same chunks hash equally under
every hasher, and two that feed it different chunks do so only where the hasher collides. So equal
hashes are stated here by the chunks, and no hasher has to be named.
-/

namespace Deferral

/-- A piece of what a hasher reads. -/
inductive Chunk where
  /-- Which of several forms follows, or how many parts. -/
  | tag (n : Nat)
  | number (n : Int)
  | text (text : String)
deriving DecidableEq, Repr

/-- A type whose values can be fed to a hasher. -/
class Feeds (α : Type) where
  feed : α → List Chunk

/-- Do two values hash equally under every hasher? -/
def hashEqually {α : Type} [Feeds α] (first second : α) : Bool := Feeds.feed first == Feeds.feed second

end Deferral
