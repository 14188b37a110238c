import Reconcile.Text.CharSet

/-!
# Patterns

A pattern describes texts by their characters: runs of characters, sets of characters, places
between characters, sequence, choice and repetition.  Two facts about the length of what it
describes, and whether it is tied to an end of the text, are read off its parts.
-/

namespace Reconcile

/-- A place between two characters, or at an end of the text. -/
inductive Look where
  | textStart
  | textEnd
  /-- At the start of a line; with `crlf`, a carriage return ends lines too. -/
  | lineStart (crlf : Bool)
  | lineEnd (crlf : Bool)
  /-- Between a word and what is not one. -/
  | wordBoundary (word : CharSet)
  | notWordBoundary (word : CharSet)
  /-- Where a word starts. -/
  | wordStart (word : CharSet)
  /-- Where a word ends. -/
  | wordEnd (word : CharSet)
  /-- Where no word goes before. -/
  | wordStartHalf (word : CharSet)
  /-- Where no word follows. -/
  | wordEndHalf (word : CharSet)
deriving DecidableEq, Repr

/-- A pattern. -/
inductive Pattern where
  | empty
  /-- Some characters, one after the other. -/
  | text (chars : List Char)
  /-- One character of a set. -/
  | char (set : CharSet)
  | look (place : Look)
  /-- A group that is numbered in the order of opening. -/
  | group (number : Nat) (p : Pattern)
  /-- The parts one after the other. -/
  | cat (parts : List Pattern)
  /-- One of the branches. -/
  | alt (branches : List Pattern)
  /-- At least `least` and at most `most` times. -/
  | rep (p : Pattern) (least : Nat) (most : Option Nat)
deriving Repr, Inhabited, BEq

namespace Pattern

/-! ## Lengths -/

/-- The number of bytes of a code point. -/
def byteCount (code : Nat) : Nat :=
  if code < 0x80 then 1 else if code < 0x800 then 2 else if code < 0x10000 then 3 else 4

mutual

/-- The least number of bytes of a text that the pattern describes; nothing if some part of it
describes no text at all. -/
def leastLength? : Pattern → Option Nat
  | empty => some 0
  | text chars => some (chars.map fun c => byteCount c.toNat).sum
  | char set => set.ranges.head?.map fun r => byteCount r.first
  | look _ => some 0
  | group _ p => leastLength? p
  | cat parts => leastSum? parts
  | alt branches => leastOf? branches
  | rep p least _ => (leastLength? p).map (· * least)

/-- The sum of the least lengths. -/
def leastSum? : List Pattern → Option Nat
  | [] => some 0
  | p :: rest => do pure ((← leastLength? p) + (← leastSum? rest))

/-- The least of the least lengths. -/
def leastOf? : List Pattern → Option Nat
  | [] => none
  | [p] => leastLength? p
  | p :: rest => do pure (min (← leastLength? p) (← leastOf? rest))

end

/-- Do all texts that the pattern describes have at least one character? -/
def isNeverEmpty (p : Pattern) : Bool := (leastLength? p).any (0 < ·)

mutual

/-- Is the empty text the only one that the pattern can describe? -/
def isZeroWidth : Pattern → Bool
  | empty => true
  | text _ => false
  | char _ => false
  | look _ => true
  | group _ p => isZeroWidth p
  | cat parts => areZeroWidth parts
  | alt branches => areZeroWidth branches
  | rep p _ most => isZeroWidth p && most.isSome

/-- Is the empty text the only one that any of the patterns can describe? -/
def areZeroWidth : List Pattern → Bool
  | [] => true
  | p :: rest => isZeroWidth p && areZeroWidth rest

end

/-! ## Ties to an end -/

/-- The two ways to go through a text. -/
inductive Direction where
  | forward
  | backward
deriving DecidableEq, Repr

/-- The end of a text where a way through it begins. -/
def Direction.origin : Direction → Look
  | .forward => .textStart
  | .backward => .textEnd

mutual

/-- Does the pattern ask for the end of the text where a way begins, before it takes anything? -/
def isAnchored (way : Direction) : Pattern → Bool
  | look place => place = way.origin
  | group _ p => isAnchored way p
  | cat parts => opensAnchored way parts
  | alt branches => areAnchored way branches
  | rep p least _ => 0 < least && isAnchored way p
  | _ => false

/-- Does a part ask for that end, before which none takes anything? -/
def opensAnchored (way : Direction) : List Pattern → Bool
  | [] => false
  | p :: rest =>
    match way with
    | .forward => isAnchored way p || (isZeroWidth p && opensAnchored way rest)
    | .backward => opensAnchored way rest || (areZeroWidth rest && isAnchored way p)

/-- Do all branches ask for that end? -/
def areAnchored (way : Direction) : List Pattern → Bool
  | [] => true
  | p :: rest => isAnchored way p && areAnchored way rest

end

end Pattern
end Reconcile
