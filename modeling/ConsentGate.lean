import ConsentGate.Cache.Step
import ConsentGate.Json.Printer
import ConsentGate.Log.Basic
import ConsentGate.Record
import ConsentGate.Service
import ConsentGate.Settings.Load
import ConsentGate.Proofs.Consent.Check
import ConsentGate.Proofs.Consent.Decoding
import ConsentGate.Proofs.Consent.Parsing
import ConsentGate.Proofs.Gate.Evaluation
import ConsentGate.Proofs.Gate.Coherence
import ConsentGate.Proofs.Gate.HeldList
import ConsentGate.Proofs.Gate.Verdict
import ConsentGate.Proofs.Gate.Noninterference
import ConsentGate.Proofs.Gate.Refusal
import ConsentGate.Proofs.Cache.Trace
import ConsentGate.Proofs.Cache.Contents
import ConsentGate.Proofs.Cache.Flight
import ConsentGate.Proofs.Cache.Throttle
import ConsentGate.Proofs.Template.Layout
import ConsentGate.Proofs.Template.Scanning
import ConsentGate.Proofs.Template.Grammar
import ConsentGate.Proofs.Http.Cookie
import ConsentGate.Proofs.Service.Reply
import ConsentGate.Proofs.Service.Session
import ConsentGate.Proofs.Success
import ConsentGate.Proofs.Text.Encoding
import ConsentGate.Proofs.Settings.Checks
import ConsentGate.Proofs.Settings.Serving
import ConsentGate.Proofs.Identity.Generation
import ConsentGate.Proofs.Identity.Resolution
import ConsentGate.Proofs.Log.Masking
import ConsentGate.Proofs.Gate.Trail
import ConsentGate.Proofs.Service.Release
import ConsentGate.Proofs.Schema.Reading
import ConsentGate.Proofs.VendorList.Gvl
import ConsentGate.Proofs.Template.Rendering
import ConsentGate.Proofs.Identity.Sensitivity
import ConsentGate.Proofs.Identity.Collision
import ConsentGate.Proofs.Consent.Order
import ConsentGate.Proofs.Consent.Report
import ConsentGate.Proofs.Identity.Outcome
import ConsentGate.Proofs.Identity.Precedence
import ConsentGate.Proofs.Cache.Schedule
import ConsentGate.Proofs.Schema.Issues
import ConsentGate.Proofs.Settings.Complaints
import ConsentGate.Proofs.Settings.Failure
import ConsentGate.Proofs.Settings.Sections
import ConsentGate.Proofs.Time.Interval
import ConsentGate.Proofs.Service.Start
import ConsentGate.Proofs.Gate.Audit
