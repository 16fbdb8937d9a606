import RecordStore.Proofs.Source.Reads

/-!
# Shapes of token trees

The code of a store is the same for every struct but for a few names: the one of the store, the one of
the stored type and the member that is the primary key. A shape is a token tree with open places for
these names.
-/

namespace RecordStore.Source

/-- **A member of a struct**: a name, or a position that fits in 32 bits. -/
inductive Member
  | name (w : Word) (isName : w.isName = true)
  | position (i : Nat) (fits : i < UInt32.size)

/-- The token of a member. -/
def Member.token : Member → Token
  | name w _ => .word w
  | position i _ => .literal (.ofNat i)

/-- **The names that a store is written for.** -/
structure StoreNames where
  /-- The name of the store. -/
  store : PlainName
  /-- The name of the type of its values. -/
  stored : Word
  isName : stored.isName = true
  /-- The member that is the primary key. -/
  key : Member

/-- **A token with open names.** -/
inductive Leaf
  | word (w : Word)
  /-- The name of the store. -/
  | store
  /-- The name of the type of its values. -/
  | stored
  /-- The member that is the primary key. -/
  | key
  | punct (s : Sign) (joint : Bool)
  | lifetime (name : String)
  /-- A string, whatever it says. -/
  | text
  deriving DecidableEq

/-- **A token tree with open names.** -/
inductive Shape
  | leaf (l : Leaf)
  | group (d : Delimiter) (content : List Shape)

variable (names : StoreNames)

/-- The token for some names. -/
def Leaf.token : Leaf → Token
  | .word w => .word w
  | .store => .word (.plain names.store)
  | .stored => .word names.stored
  | .key => names.key.token
  | .punct s joint => .punct s joint
  | .lifetime name => .lifetime name
  | .text => .literal .nothing

mutual

/-- The token tree for some names. -/
def Shape.tree : Shape → TokenTree
  | .leaf l => (l.token names).bare
  | .group d content => groupOf d (trees content)

/-- The token trees for some names. -/
def trees : List Shape → Tokens
  | [] => []
  | s :: rest => s.tree :: trees rest

end

@[simp]
theorem trees_append (ss ss' : List Shape) : trees names (ss ++ ss') = trees names ss ++ trees names ss' := by
  induction ss with
  | nil => rfl
  | cons s ss ih => rw [List.cons_append, trees, trees, ih, List.cons_append]

attribute [simp] trees Shape.tree Leaf.token

end RecordStore.Source
