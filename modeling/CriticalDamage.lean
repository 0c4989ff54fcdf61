import CriticalDamage.Text.Blank
import CriticalDamage.Text.Lowercase
import CriticalDamage.Text.Quoted
import CriticalDamage.Number.Binary64
import CriticalDamage.Document.Reader
import CriticalDamage.Document.Writer
import CriticalDamage.Dice.Additive
import CriticalDamage.Dice.Rolled
import CriticalDamage.Formula.Reader
import CriticalDamage.Formula.Roll
import CriticalDamage.Critical.Assembly
import CriticalDamage.HostDamage.Normal
import CriticalDamage.Estimate
import CriticalDamage.Session.Roll
import CriticalDamage.Command.Run
import CriticalDamage.Main
import CriticalDamage.Proofs.Numerals
import CriticalDamage.Proofs.RecordEntries
import CriticalDamage.Proofs.Lexemes
import CriticalDamage.Proofs.SignedTerms
import CriticalDamage.Proofs.Grammar
import CriticalDamage.Proofs.Derivations
import CriticalDamage.Proofs.ExpressionReading
import CriticalDamage.Proofs.ExpressionRange
import CriticalDamage.Proofs.Conservation
import CriticalDamage.Proofs.CaptureHistory
import CriticalDamage.Proofs.CanonicalForm
import CriticalDamage.Proofs.TagNames
import CriticalDamage.Proofs.SessionHistory
import CriticalDamage.Proofs.WrittenStructures
import CriticalDamage.Proofs.StructureCodec
import CriticalDamage.Proofs.AttackRolls
import CriticalDamage.Proofs.NewCaptures
import CriticalDamage.Proofs.FormulaSets
import CriticalDamage.Proofs.NormalHits
import CriticalDamage.Proofs.WeaponTypes
import CriticalDamage.Proofs.InstanceDamage
import CriticalDamage.Proofs.ShapeOrder
import CriticalDamage.Proofs.ReaderAgreement
import CriticalDamage.Proofs.PartTags
import CriticalDamage.Proofs.FormulaRolls
import CriticalDamage.Proofs.RollSums
import CriticalDamage.Proofs.HitSettings
import CriticalDamage.Proofs.Estimates
import CriticalDamage.Proofs.ModifierOrder
import CriticalDamage.Proofs.DiceCounts
import CriticalDamage.Proofs.TraitDice
import CriticalDamage.Proofs.DeadlyTraits
import CriticalDamage.Proofs.BonusPaths
import CriticalDamage.Proofs.Tiling
import CriticalDamage.Proofs.PrintedTokens
import CriticalDamage.Proofs.WholeInstances
import CriticalDamage.Proofs.CanonicalNames
import CriticalDamage.Proofs.InstanceOrder
