import S3Desk.Json
import S3Desk.PyText
import S3Desk.Mime
import S3Desk.Policy.GcsEdit
import S3Desk.Notices.Npm
import S3Desk.Notices.Licenses
import S3Desk.Notices.GoModules
import S3Desk.Notices.Main
import S3Desk.Runner.Run
import S3Desk.Runner.Transport
import S3Desk.Runner.Retry
import S3Desk.Runner.Poll
import S3Desk.Runner.Adapters
import S3Desk.Runner.GcsBackend
import S3Desk.Runner.Multipart
import S3Desk.Runner.Scenario
import S3Desk.Runner.ApiServer
import S3Desk.Runner.ScenarioRun
import S3Desk.Lighthouse.Script
import S3Desk.Lighthouse.Session
import S3Desk.Lighthouse.Main
